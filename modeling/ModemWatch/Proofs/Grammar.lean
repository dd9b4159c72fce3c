import ModemWatch.Text.Digits
import ModemWatch.Toml.Characters
import ModemWatch.Toml.Codec

/-!
# What TOML texts say

The part of TOML 1.0 that settings are written in, told by its grammar and not by a reader or a
writer: tables with headers, keys without quotes, and values that are quoted texts, truth values,
numbers, and lists of these.  Blanks, empty lines and comments may stand wherever TOML allows them.

Left out is what TOML leaves to its reader, such as a line break of two characters inside a
quotation, and what says the same in another way: dotted and quoted keys, inline tables, other
number systems, and a backslash at the end of a line.

TOML does not order the keys of a table.  So a `Document` *says* data, `Document.Says`, if the data
have the same tables with the same keys and the same values, in whatever order.

* `Quotation`, `Value` — quoted texts and values, each with what it stands for;
* `Document` — a text made of tables, `Document.without` — with some of its parts taken out;
* `Codec.ReadsDocuments`, `Codec.WritesDocuments` — what is expected of a reader and of a writer.
-/

namespace ModemWatch.Toml

/-! ## Quotations -/

/-- What stands between the marks of a quotation, and the text that it stands for; `run` is the
number of quotes right in front of it that stand for themselves. -/
inductive Quoting.Body (q : Quoting) : Nat → List Char → List Char → Prop
  | nil (run : Nat) : q.Body run [] []
  /-- A quote that stands for itself. -/
  | quote {run : Nat} {source text : List Char} :
      run < q.quotesInside → q.Body (run + 1) source text →
        q.Body run (q.quote :: source) (q.quote :: text)
  /-- Any other character that stands for itself. -/
  | plain {run : Nat} {c : Char} {source text : List Char} :
      c ≠ q.quote → (c = '\\' → q.escapes = false) → isPrintable c = true →
        q.Body 0 source text → q.Body run (c :: source) (c :: text)
  | lineBreak {run : Nat} {source text : List Char} :
      q.multiline = true → q.Body 0 source text → q.Body run ('\n' :: source) ('\n' :: text)
  /-- A backslash with a letter. -/
  | escape {run : Nat} {letter c : Char} {source text : List Char} :
      q.escapes = true → escaped? letter = some c → q.Body 0 source text →
        q.Body run ('\\' :: letter :: source) (c :: text)
  /-- A backslash with the digits of a code point. -/
  | codePoint {run : Nat} {letter c : Char} {digits source text : List Char} :
      q.escapes = true → (letter, digits.length) ∈ [('u', 4), ('U', 8)] →
        (∀ d ∈ digits, digitValue d < 16) →
        charOfCodePoint? (ofDigits 16 (digits.map digitValue)) = some c → q.Body 0 source text →
        q.Body run ('\\' :: letter :: (digits ++ source)) (c :: text)

/-- A quotation, and the text that it stands for.  Over several lines the text may begin on the line
below the mark. -/
inductive Quotation : List Char → List Char → Prop
  | here {q : Quoting} {source text : List Char} :
      q ∈ Quoting.all → q.Body 0 source text →
        (q.multiline = true → source.head? ≠ some '\n') →
        Quotation (q.mark ++ (source ++ q.mark)) text
  | below {q : Quoting} {source text : List Char} :
      q ∈ Quoting.all → q.Body 0 source text → q.multiline = true →
        Quotation (q.mark ++ '\n' :: (source ++ q.mark)) text

/-! ## Blanks and comments -/

/-- Blanks on a line. -/
def Gap (s : List Char) : Prop := ∀ c ∈ s, c = ' ' ∨ c = '\t'

/-- The two ways of breaking a line. -/
def lineBreaks : List (List Char) := [['\n'], ['\x0d', '\n']]

/-- The end of a line, with a comment if there is one. -/
inductive LineEnd : List Char → Prop
  | bare {gap break_ : List Char} : Gap gap → break_ ∈ lineBreaks → LineEnd (gap ++ break_)
  | comment {gap note break_ : List Char} :
      Gap gap → (∀ c ∈ note, isPrintable c = true) → break_ ∈ lineBreaks →
        LineEnd (gap ++ '#' :: (note ++ break_))

/-- Blanks, empty lines and comments. -/
inductive Filler : List Char → Prop
  | gap {s : List Char} : Gap s → Filler s
  | line {ending s : List Char} : LineEnd ending → Filler s → Filler (ending ++ s)

/-! ## Values -/

/-- A value that is no list, and the data that it stands for. -/
inductive Scalar : List Char → Datum → Prop
  | text {source : List Char} {s : String} : Quotation source s.toList → Scalar source (.text s)
  | boolean (b : Bool) : Scalar (if b then "true" else "false").toList (.boolean b)
  | number {n : Nat} : n ≤ 9223372036854775807 → Scalar (Nat.toDigits 10 n) (.integer n)

/-- What stands between the brackets of a list, and its items.  A comma may stand behind the
last. -/
inductive Items : List Char → List Datum → Prop
  | nil {filler : List Char} : Filler filler → Items filler []
  | last {front source behind : List Char} {d : Datum} :
      Filler front → Scalar source d → Filler behind → Items (front ++ (source ++ behind)) [d]
  | cons {front source behind more : List Char} {d : Datum} {ds : List Datum} :
      Filler front → Scalar source d → Filler behind → Items more ds →
        Items (front ++ (source ++ (behind ++ ',' :: more))) (d :: ds)

/-- A value, and the data that it stands for. -/
inductive Value : List Char → Datum → Prop
  | scalar {source : List Char} {d : Datum} : Scalar source d → Value source d
  | list {source : List Char} {ds : List Datum} :
      Items source ds → Value ('[' :: (source ++ [']'])) (.list ds)

/-! ## Documents -/

/-- The name can stand for a key as it is. -/
def IsBareKey (name : String) : Prop :=
  name.toList ≠ [] ∧ ∀ c ∈ name.toList, isBareKeyChar c = true

instance (name : String) : Decidable (IsBareKey name) :=
  decidable_of_iff (name.toList ≠ [] ∧ name.toList.all isBareKeyChar = true)
    (and_congr_right fun _ => List.all_eq_true)

/-- A key with its value, and all that stands on the lines in front of it. -/
inductive FieldLine (key : String) (d : Datum) : List Char → Prop
  | intro {front left right source ending : List Char} :
      Filler front → Gap left → Gap right → Value source d → LineEnd ending →
        FieldLine key d
          (front ++ (key.toList ++ (left ++ '=' :: (right ++ (source ++ ending)))))

/-- A header, and all that stands on the lines in front of it. -/
inductive HeaderLine (name : String) : List Char → Prop
  | intro {front left right ending : List Char} :
      Filler front → Gap left → Gap right → LineEnd ending →
        HeaderLine name (front ++ '[' :: (left ++ (name.toList ++ (right ++ ']' :: ending))))

/-- A key with its value, as it is written. -/
structure Field where
  key : String
  datum : Datum
  source : List Char
  bare : IsBareKey key
  line : FieldLine key datum source

/-- What a key stands for in its table. -/
def Field.entry (f : Field) : String × Datum := (f.key, f.datum)

/-- A table, as it is written: a header and keys, each of them once. -/
structure Block where
  name : String
  header : List Char
  fields : List Field
  bare : IsBareKey name
  opens : HeaderLine name header
  distinct : (fields.map Field.key).Nodup

/-- What is written of a table. -/
def Block.source (b : Block) : List Char := b.header ++ b.fields.flatMap Field.source

/-- A text that is made of tables with different names. -/
structure Document where
  blocks : List Block
  /-- Blanks and comments behind the last table. -/
  tail : List Char
  filler : Filler tail
  distinct : (blocks.map Block.name).Nodup

/-- What can be taken out of a document. -/
inductive Part where
  /-- A table: its header and everything below it. -/
  | table (name : String)
  /-- A key of a table, with its value. -/
  | key (table name : String)
  deriving DecidableEq, Repr

/-- The data are a record with the fields of the block, in whatever order. -/
def Block.Says (b : Block) (d : Datum) : Prop :=
  ∃ fields, d = .record fields ∧ fields.Perm (b.fields.map Field.entry)

theorem Block.says_record {b : Block} {fields : List (String × Datum)} :
    b.Says (.record fields) ↔ fields.Perm (b.fields.map Field.entry) := by
  constructor
  · intro h
    obtain ⟨_, heq, hperm⟩ := h
    rwa [Datum.record.inj heq]
  · exact fun h => ⟨fields, rfl, h⟩

namespace Document

/-- The text of a document. -/
def text (doc : Document) : String :=
  String.ofList (doc.blocks.flatMap Block.source ++ doc.tail)

/-- The data are a record with what each block says under its name, in whatever order. -/
def Says (doc : Document) (d : Datum) : Prop :=
  ∃ tables, d = .record tables ∧ (tables.map Prod.fst).Perm (doc.blocks.map Block.name) ∧
    ∀ b ∈ doc.blocks, ∃ table, (b.name, table) ∈ tables ∧ b.Says table

theorem says_record {doc : Document} {tables : List (String × Datum)} :
    doc.Says (.record tables) ↔ (tables.map Prod.fst).Perm (doc.blocks.map Block.name) ∧
      ∀ b ∈ doc.blocks, ∃ table, (b.name, table) ∈ tables ∧ b.Says table := by
  constructor
  · intro h
    obtain ⟨_, heq, hsaid⟩ := h
    rwa [Datum.record.inj heq]
  · exact fun h => ⟨tables, rfl, h⟩

end Document

/-- A table without some of its keys. -/
def Block.without (out : Part → Bool) (b : Block) : Block :=
  { b with
    fields := b.fields.filter (fun f => !out (.key b.name f.key))
    distinct := b.distinct.sublist (List.filter_sublist.map _) }

/-- A document without some of its parts. -/
def Document.without (out : Part → Bool) (doc : Document) : Document :=
  { doc with
    blocks := (doc.blocks.filter (fun b => !out (.table b.name))).map (Block.without out)
    distinct := by
      have hnames : ((doc.blocks.filter (fun b => !out (.table b.name))).map
          (Block.without out)).map Block.name =
          (doc.blocks.filter (fun b => !out (.table b.name))).map Block.name := by
        rw [List.map_map]
        rfl
      rw [hnames]
      exact doc.distinct.sublist (List.filter_sublist.map _) }

theorem Document.mem_without {out : Part → Bool} {doc : Document} {b : Block} :
    b ∈ (doc.without out).blocks ↔
      ∃ b' ∈ doc.blocks, out (.table b'.name) = false ∧ b'.without out = b := by
  simp [Document.without, and_assoc]

namespace Codec

/-- **Documents are read**: of every document one reads data that it says. -/
def ReadsDocuments (toml : Codec) : Prop :=
  ∀ doc : Document, ∃ d, toml.read doc.text = .ok d ∧ doc.Says d

/-- **Documents are written**: whatever a document can say is written as a document that says it. -/
def WritesDocuments (toml : Codec) : Prop :=
  ∀ d, (∃ doc : Document, doc.Says d) →
    ∃ doc : Document, toml.write d = .ok doc.text ∧ doc.Says d

end Codec

end ModemWatch.Toml
