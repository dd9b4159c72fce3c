/-!
# What stands at a path

A file is known by what comes back when somebody reads it: nothing stands at its path, something
stands there that cannot be read (a directory, or a file without permission), or it has bytes.

The screen state file is the smallest example.  Whoever owns the display keeps a line in it; the
screen is on exactly when the file can be read and begins with `yes`.

* `FileContent.text?_ofText` — a text that is written into a file is read back;
* `FileContent.screenOn_bytes` — only the first three bytes matter.
-/

namespace ModemWatch

/-- What stands at a path. -/
inductive FileContent where
  | missing
  | unreadable
  | bytes (content : List UInt8)
  deriving DecidableEq, Repr

namespace FileContent

/-- A file that holds a text. -/
def ofText (text : String) : FileContent := .bytes text.toUTF8.toList

/-- The text of a file: it can be read and its bytes are UTF-8. -/
def text? : FileContent → Option String
  | .missing | .unreadable => none
  | .bytes content => String.fromUTF8? ⟨content.toArray⟩

private theorem toList_loop (bytes : ByteArray) (i : Nat) (r : List UInt8) :
    ByteArray.toList.loop bytes i r = r.reverse ++ bytes.data.toList.drop i := by
  fun_induction ByteArray.toList.loop bytes i r with
  | case1 i r hlt ih =>
      have hi : i < bytes.data.toList.length := by simpa using hlt
      rw [ih, List.drop_eq_getElem_cons hi]
      simp [ByteArray.get!, getElem!_pos, hlt]
  | case2 i r hge =>
      have hi : bytes.data.toList.length ≤ i := by simpa using Nat.le_of_not_lt hge
      rw [List.drop_of_length_le hi, List.append_nil]

/-- A text that is written into a file is read back. -/
@[simp] theorem text?_ofText (text : String) : (ofText text).text? = some text := by
  have hbytes : text.toUTF8.toList = text.toUTF8.data.toList := toList_loop text.toUTF8 0 []
  rw [ofText, hbytes, text?, Array.toArray_toList]
  exact dif_pos text.isValidUTF8

/-- The bytes of `yes`. -/
def screenOnMark : List UInt8 := [0x79, 0x65, 0x73]

/-- The screen state file tells that the screen is on. -/
def screenOn : FileContent → Bool
  | .missing | .unreadable => false
  | .bytes content => content.take screenOnMark.length == screenOnMark

/-- Bytes behind the first three do not matter. -/
theorem screenOn_bytes (mark rest : List UInt8) (h : mark.length = 3) :
    (bytes (mark ++ rest)).screenOn = (mark == screenOnMark) := by
  simp [screenOn, screenOnMark, h]

/-- The screen state file as it is written for a screen that is on or off. -/
def ofScreen (on : Bool) : FileContent :=
  .bytes (if on then screenOnMark ++ [0x0a] else [0x6e, 0x6f, 0x0a])

@[simp] theorem screenOn_ofScreen (on : Bool) : (ofScreen on).screenOn = on := by
  cases on <;> rfl

end FileContent

end ModemWatch
