import Mathlib.Data.List.Nodup
import Mathlib.Data.List.TakeWhile
import ModemWatch.Device.PowerSupply

/-!
# What the power supply directory shows

A directory is listed in no order that anybody may count on.  Some of its entries are no batteries,
some are damaged, and there may be several batteries.  None of this matters: the state is that of
the battery whose name comes first, byte by byte, and of this battery only the file `status` counts.

What a file holds is said here without cutting anything off: `FileContent.Holds` asks for a text
that is the word with white space around it at most.

* `trimmed_eq_iff` — what is left when blanks are cut off, told by the text itself;
* `PowerSupply.batteryState_eq_iff` — the state of a battery, by what its file `status` holds;
* `PowerSupply.First` — the battery that decides; `PowerSupply.state_of_first` — it does;
* `PowerSupply.state_of_silent` — entries that have no say;
* `PowerSupply.first_battery_decides` — what a directory shows.
-/

namespace ModemWatch

/-! ## Blanks around a text -/

/-- White space, any amount of it. -/
def Blanks (s : List Char) : Prop := ∀ c ∈ s, isBlank c = true

instance (s : List Char) : Decidable (Blanks s) :=
  decidable_of_iff (s.all isBlank = true) List.all_eq_true

/-- The text neither begins nor ends with white space. -/
def Bare (s : List Char) : Prop :=
  (∀ c ∈ s.head?, isBlank c = false) ∧ ∀ c ∈ s.getLast?, isBlank c = false

instance (s : List Char) : Decidable (Bare s) :=
  decidable_of_iff ((s.head?.all fun c => !isBlank c) && s.getLast?.all fun c => !isBlank c)
    (by simp [Bare, Option.all_eq_true])

theorem blanks_takeWhile (s : List Char) : Blanks (s.takeWhile isBlank) := by
  intro c hc
  exact List.mem_takeWhile_imp hc

/-- Only blanks are cut off. -/
theorem exists_blanks_trimmed (s : List Char) :
    ∃ before after, Blanks before ∧ Blanks after ∧ s = before ++ trimmed s ++ after := by
  let rest := (s.dropWhile isBlank).reverse
  refine ⟨s.takeWhile isBlank, (rest.takeWhile isBlank).reverse, blanks_takeWhile s, ?_, ?_⟩
  · intro c hc
    exact blanks_takeWhile rest c (List.mem_reverse.mp hc)
  · have hrest : trimmed s ++ (rest.takeWhile isBlank).reverse = s.dropWhile isBlank := by
      rw [trimmed, ← List.reverse_append, List.takeWhile_append_dropWhile, List.reverse_reverse]
    rw [List.append_assoc, hrest, List.takeWhile_append_dropWhile]

theorem dropWhile_of_head {s : List Char} (h : ∀ c ∈ s.head?, isBlank c = false) :
    s.dropWhile isBlank = s := by
  cases s with
  | nil => rfl
  | cons c s => simp [h c rfl]

/-- Where no blank stands at an end nothing is cut off. -/
theorem trimmed_of_bare {s : List Char} (h : Bare s) : trimmed s = s := by
  have hback : ∀ c ∈ s.reverse.head?, isBlank c = false := by
    rw [List.head?_reverse]
    exact h.2
  rw [trimmed, dropWhile_of_head h.1, dropWhile_of_head hback, List.reverse_reverse]

/-- **What is left of a text** is a word exactly if the text is the word and blanks around it. -/
theorem trimmed_eq_iff {s word : List Char} (hword : Bare word) :
    trimmed s = word ↔
      ∃ before after, Blanks before ∧ Blanks after ∧ s = before ++ word ++ after := by
  constructor
  · intro h
    obtain ⟨before, after, hb, ha, hs⟩ := exists_blanks_trimmed s
    exact ⟨before, after, hb, ha, by rw [← h]; exact hs⟩
  · intro h
    obtain ⟨before, after, hb, ha, hs⟩ := h
    rw [hs, trimmed_append_right ha, trimmed_append_left hb, trimmed_of_bare hword]

/-- What is left once is left for good. -/
theorem trimmed_trimmed (s : List Char) : trimmed (trimmed s) = trimmed s := by
  obtain ⟨before, after, hb, ha, hs⟩ := exists_blanks_trimmed s
  calc trimmed (trimmed s) = trimmed (before ++ trimmed s ++ after) := by
        rw [trimmed_append_right ha, trimmed_append_left hb]
    _ = trimmed s := by rw [← hs]

/-! ## Words in files -/

namespace FileContent

/-- A file holds a word: it can be read as a text, which is the word with white space around it at
most. -/
def Holds (word : String) (c : FileContent) : Prop :=
  ∃ text before after, c.text? = some text ∧ Blanks before ∧ Blanks after ∧
    text.toList = before ++ word.toList ++ after

/-- A file that holds what another one holds, with more white space around it; or the same file. -/
inductive Padded (c : FileContent) : FileContent → Prop where
  | same : Padded c c
  | more {padded : FileContent} (text before after : String) (hread : c.text? = some text)
      (hbefore : Blanks before.toList) (hafter : Blanks after.toList)
      (hpadded : padded.text? = some (before ++ text ++ after)) : Padded c padded

variable {word : String} {c padded : FileContent}

theorem holds_iff (hword : Bare word.toList) :
    c.Holds word ↔ c.text?.map (fun text => trimmed text.toList) = some word.toList := by
  rw [Option.map_eq_some_iff]
  constructor
  · intro h
    obtain ⟨text, before, after, htext, hb, ha, hs⟩ := h
    exact ⟨text, htext, (trimmed_eq_iff hword).mpr ⟨before, after, hb, ha, hs⟩⟩
  · intro h
    obtain ⟨text, htext, hleft⟩ := h
    obtain ⟨before, after, hb, ha, hs⟩ := (trimmed_eq_iff hword).mp hleft
    exact ⟨text, before, after, htext, hb, ha, hs⟩

/-- More white space does not change which word a file holds. -/
theorem Padded.holds_iff (h : Padded c padded) (hword : Bare word.toList) :
    padded.Holds word ↔ c.Holds word := by
  cases h with
  | same => exact Iff.rfl
  | more text before after hread hbefore hafter hpadded =>
      rw [FileContent.holds_iff hword, FileContent.holds_iff hword, hread, hpadded]
      simp only [Option.map_some, String.toList_append]
      rw [trimmed_append_right hafter, trimmed_append_left hbefore]

end FileContent

namespace PowerSupply

/-! ## What a battery shows -/

/-- The entry is a battery. -/
def Battery (s : PowerSupply) : Prop := (s.file "type").Holds "Battery"

theorem isBattery_iff {s : PowerSupply} : s.isBattery = true ↔ s.Battery := by
  rw [isBattery, beq_iff_eq]
  exact (FileContent.holds_iff (by decide)).symm

/-- The words that the file `status` of a battery may hold, and the states that they name. -/
def statusWords : List (String × PowerState) :=
  [("Charging", .charging), ("Discharging", .discharging), ("Full", .fullyCharged)]

theorem bare_statusWords : ∀ w ∈ statusWords, Bare w.1.toList := by decide

/-- What a battery shows: the state that its file `status` names, or that nothing is known. -/
def Shows (s : PowerSupply) (p : PowerState) : Prop :=
  (∃ w ∈ statusWords, w.2 = p ∧ (s.file "status").Holds w.1) ∨
    p = .unknown ∧ ∀ w ∈ statusWords, ¬ (s.file "status").Holds w.1

/-- The state that a text without blanks at its ends stands for. -/
theorem ofStatus_eq_iff {status : List Char} (hleft : trimmed status = status) {p : PowerState} :
    PowerState.ofStatus status = p ↔
      (∃ w ∈ statusWords, w.2 = p ∧ status = w.1.toList) ∨
        p = .unknown ∧ ∀ w ∈ statusWords, status ≠ w.1.toList := by
  obtain ⟨text, rfl⟩ : ∃ text : String, text.toList = status :=
    ⟨String.ofList status, String.toList_ofList⟩
  simp only [PowerState.ofStatus, hleft, String.ofList_toList, ne_eq, String.toList_inj]
  split <;> simp_all [statusWords, eq_comm]

/-- **The state of a battery** is the one that it shows. -/
theorem batteryState_eq_iff {s : PowerSupply} {p : PowerState} :
    s.batteryState = p ↔ s.Shows p := by
  have hholds : ∀ w ∈ statusWords,
      ((s.file "status").Holds w.1 ↔ s.attribute? "status" = some w.1.toList) :=
    fun w hw => FileContent.holds_iff (bare_statusWords w hw)
  have hshows : s.Shows p ↔
      (∃ w ∈ statusWords, w.2 = p ∧ s.attribute? "status" = some w.1.toList) ∨
        p = .unknown ∧ ∀ w ∈ statusWords, ¬ s.attribute? "status" = some w.1.toList := by
    rw [Shows]
    grind
  rw [hshows, batteryState]
  cases hread : s.attribute? "status" with
  | none => simp [eq_comm]
  | some status =>
      obtain ⟨text, -, rfl⟩ := Option.map_eq_some_iff.mp hread
      simpa only [Option.some.injEq] using ofStatus_eq_iff (trimmed_trimmed text.toList)

/-! ## The battery that decides -/

/-- The names of some entries. -/
abbrev names (entries : List PowerSupply) : List (List UInt8) := entries.map (fun s => s.name)

/-- The battery whose name comes first. -/
structure First (entries : List PowerSupply) (b : PowerSupply) : Prop where
  mem : b ∈ entries
  battery : b.Battery
  least : ∀ s ∈ entries, s.Battery → b.name ≤ s.name

/-- The entry has no say: it is no battery, or its name comes behind that of the first one. -/
def Silent (entries : List PowerSupply) (s : PowerSupply) : Prop :=
  s.Battery → ∃ b, First entries b ∧ b.name < s.name

variable {entries : List PowerSupply} {b c : PowerSupply}

theorem first_le (h : first entries = some b) : ∀ s ∈ entries, b.name ≤ s.name := by
  induction entries generalizing b with
  | nil => simp
  | cons x rest ih =>
      rw [first] at h
      intro s hs
      cases hrest : first rest with
      | none =>
          obtain rfl := first_eq_none.mp hrest
          obtain rfl := List.mem_singleton.mp hs
          obtain rfl : s = b := by simpa [hrest] using h
          exact List.le_refl _
      | some t =>
          simp only [hrest] at h
          by_cases hlt : t.name < x.name
          · obtain rfl : t = b := by simpa [hlt] using h
            rcases List.mem_cons.mp hs with rfl | hs
            · exact List.le_of_lt hlt
            · exact ih hrest s hs
          · obtain rfl : x = b := by simpa [hlt] using h
            rcases List.mem_cons.mp hs with rfl | hs
            · exact List.le_refl _
            · exact List.le_trans (List.not_lt.mp hlt) (ih hrest s hs)

/-- The battery that is found is the one whose name comes first. -/
theorem first_of_found (h : first (entries.filter isBattery) = some b) : First entries b := by
  obtain ⟨hmem, hbattery⟩ := List.mem_filter.mp (first_mem h)
  refine ⟨hmem, isBattery_iff.mp hbattery, ?_⟩
  intro s hs hsb
  exact first_le h s (List.mem_filter.mpr ⟨hs, isBattery_iff.mpr hsb⟩)

theorem found_eq_none_iff :
    first (entries.filter isBattery) = none ↔ ∀ s ∈ entries, ¬ s.Battery := by
  rw [first_eq_none, List.filter_eq_nil_iff]
  simp only [isBattery_iff]

/-- Where there are batteries one of them comes first. -/
theorem exists_first (h : ∃ s ∈ entries, s.Battery) : ∃ b, First entries b := by
  cases hfound : first (entries.filter isBattery) with
  | none =>
      obtain ⟨s, hs, hbattery⟩ := h
      exact absurd hbattery (found_eq_none_iff.mp hfound s hs)
  | some b => exact ⟨b, first_of_found hfound⟩

/-- No two entries have the same name, so only one battery comes first. -/
theorem First.unique (hnames : (names entries).Nodup) (hb : First entries b)
    (hc : First entries c) : b = c := by
  have hname : b.name = c.name :=
    List.le_antisymm (hb.least c hc.mem hc.battery) (hc.least b hb.mem hb.battery)
  exact List.inj_on_of_nodup_map hnames hb.mem hc.mem hname

/-- **The first battery decides.** -/
theorem state_of_first (hnames : (names entries).Nodup) (hb : First entries b) :
    state (some entries) = b.batteryState := by
  cases hfound : first (entries.filter isBattery) with
  | none => exact absurd hb.battery (found_eq_none_iff.mp hfound b hb.mem)
  | some c =>
      rw [hb.unique hnames (first_of_found hfound)]
      simp [state, hfound]

theorem batteryState_ne_noBattery (s : PowerSupply) : s.batteryState ≠ .noBattery := by
  intro h
  rcases batteryState_eq_iff.mp h with ⟨w, hw, hstate, -⟩ | ⟨hstate, -⟩
  · exact absurd hstate (by revert w; decide)
  · cases hstate

/-- Without a battery the directory shows none, and only then. -/
theorem state_eq_noBattery_iff :
    state (some entries) = .noBattery ↔ ∀ s ∈ entries, ¬ s.Battery := by
  rw [← found_eq_none_iff, state, Option.getD_some]
  cases hfound : first (entries.filter isBattery) with
  | none => simp
  | some b => simp [batteryState_ne_noBattery]

/-! ## What has no say -/

variable {entries' : List PowerSupply}

/-- Two directories that have the same first battery, or none, show the same. -/
theorem state_congr (hnames : (names entries).Nodup) (hnames' : (names entries').Nodup)
    (hfirst : ∀ b, First entries b → ∃ b', First entries' b' ∧ b'.batteryState = b.batteryState)
    (hnone : (∀ s ∈ entries, ¬ s.Battery) → ∀ s ∈ entries', ¬ s.Battery) :
    state (some entries') = state (some entries) := by
  by_cases hb : ∃ s ∈ entries, s.Battery
  · obtain ⟨b, hb⟩ := exists_first hb
    obtain ⟨b', hb', hsame⟩ := hfirst b hb
    rw [state_of_first hnames hb, state_of_first hnames' hb', hsame]
  · have hno : ∀ s ∈ entries, ¬ s.Battery := fun s hs hsb => hb ⟨s, hs, hsb⟩
    rw [state_eq_noBattery_iff.mpr hno, state_eq_noBattery_iff.mpr (hnone hno)]

/-- **Entries without a say may come and go.** -/
theorem state_of_silent (hnames : (names entries).Nodup) (hnames' : (names entries').Nodup)
    (hsilent : ∀ s, ¬ (s ∈ entries ↔ s ∈ entries') → Silent entries s) :
    state (some entries') = state (some entries) := by
  refine state_congr hnames hnames' ?_ ?_
  · intro b hb
    refine ⟨b, ⟨?_, hb.battery, ?_⟩, rfl⟩
    · apply Classical.byContradiction
      intro hgone
      obtain ⟨b₀, hb₀, hlt⟩ := hsilent b (fun h => hgone (h.mp hb.mem)) hb.battery
      exact hb.least b₀ hb₀.mem hb₀.battery hlt
    · intro s hs hsb
      by_cases hold : s ∈ entries
      · exact hb.least s hold hsb
      · obtain ⟨b₀, hb₀, hlt⟩ := hsilent s (fun h => hold (h.mpr hs)) hsb
        exact List.le_trans (hb.least b₀ hb₀.mem hb₀.battery) (List.le_of_lt hlt)
  · intro hno s hs hsb
    by_cases hold : s ∈ entries
    · exact hno s hold hsb
    · obtain ⟨b₀, hb₀, -⟩ := hsilent s (fun h => hold (h.mpr hs)) hsb
      exact hno b₀ hb₀.mem hb₀.battery

/-- The files of an entry, with more white space around their texts. -/
structure Padded (s padded : PowerSupply) : Prop where
  name : padded.name = s.name
  file : ∀ name, (s.file name).Padded (padded.file name)

theorem Padded.battery_iff {s padded : PowerSupply} (h : s.Padded padded) :
    padded.Battery ↔ s.Battery :=
  (h.file "type").holds_iff (by decide)

theorem Padded.batteryState_eq {s padded : PowerSupply} (h : s.Padded padded) :
    padded.batteryState = s.batteryState := by
  have hholds : ∀ w ∈ statusWords,
      ((padded.file "status").Holds w.1 ↔ (s.file "status").Holds w.1) :=
    fun w hw => (h.file "status").holds_iff (bare_statusWords w hw)
  rw [batteryState_eq_iff]
  have hshows : s.Shows s.batteryState := batteryState_eq_iff.mp rfl
  rw [Shows] at hshows ⊢
  grind

/-- **White space around the texts does not matter.** -/
theorem state_of_padded (hnames : (names entries).Nodup) {pad : PowerSupply → PowerSupply}
    (hpad : ∀ s ∈ entries, s.Padded (pad s)) :
    state (some (entries.map pad)) = state (some entries) := by
  have hsame : names (entries.map pad) = names entries := by
    rw [names, List.map_map]
    exact List.map_congr_left fun s hs => (hpad s hs).name
  refine state_congr hnames (by rwa [hsame]) ?_ ?_
  · intro b hb
    refine ⟨pad b, ⟨List.mem_map_of_mem hb.mem, ?_, ?_⟩, (hpad b hb.mem).batteryState_eq⟩
    · exact (hpad b hb.mem).battery_iff.mpr hb.battery
    · intro s hs hsb
      obtain ⟨t, ht, rfl⟩ := List.mem_map.mp hs
      rw [(hpad b hb.mem).name, (hpad t ht).name]
      exact hb.least t ht ((hpad t ht).battery_iff.mp hsb)
  · intro hno s hs hsb
    obtain ⟨t, ht, rfl⟩ := List.mem_map.mp hs
    exact hno t ht ((hpad t ht).battery_iff.mp hsb)

/-- **What a directory shows.**  Take any directory, with its entries listed in any order; one that
is not there has none.  No battery is there exactly if no entry has a file `type` that can be read
as a text and holds `Battery`.  Where there are batteries one of them has the first name, byte by
byte, and the state is the one that its file `status` names; a file that is missing, cannot be read
or names no state tells nothing.

So the state is the same in whatever order the entries are listed.  It is the same if entries come,
go or change that are no batteries, or batteries with names behind that of the first one.  And it is
the same with more white space around the texts of the files. -/
theorem first_battery_decides (directory : Option (List PowerSupply))
    (hnames : (names (directory.getD [])).Nodup) :
    let entries := directory.getD []
    (state directory = .noBattery ↔ ∀ s ∈ entries, ¬ (s.file "type").Holds "Battery") ∧
    ((∃ s ∈ entries, (s.file "type").Holds "Battery") → ∃ b, First entries b) ∧
    (∀ b, First entries b → ∀ p, state directory = p ↔ b.Shows p) ∧
    (∀ entries', entries'.Perm entries → state (some entries') = state directory) ∧
    (∀ entries', (names entries').Nodup →
      (∀ s, ¬ (s ∈ entries ↔ s ∈ entries') → Silent entries s) →
      state (some entries') = state directory) ∧
    ∀ pad : PowerSupply → PowerSupply, (∀ s ∈ entries, s.Padded (pad s)) →
      state (some (entries.map pad)) = state directory := by
  intro entries
  have hstate : state directory = state (some entries) := rfl
  rw [hstate]
  refine ⟨state_eq_noBattery_iff, exists_first, ?_, ?_, ?_, ?_⟩
  · intro b hb p
    rw [state_of_first hnames hb]
    exact batteryState_eq_iff
  · intro entries' hperm
    refine state_of_silent hnames ((hperm.map _).nodup_iff.mpr hnames) ?_
    intro s hs
    exact absurd hperm.mem_iff.symm hs
  · intro entries' hnames' hsilent
    exact state_of_silent hnames hnames' hsilent
  · intro pad hpad
    exact state_of_padded hnames hpad

/-- The battery `b1`; its files end with line ends. -/
def charging : PowerSupply where
  name := [0x62, 0x31]
  files := [("type", .ofText "Battery\n"), ("status", .ofText "Charging\n")]

/-- The battery `b2`, in the state that a file `status` tells. -/
def second (status : FileContent) : PowerSupply where
  name := [0x62, 0x32]
  files := [("type", .ofText "Battery"), ("status", status)]

/-- An entry in front of all others, whose name is not UTF-8 and neither is its file `type`. -/
def damaged : PowerSupply where
  name := [0x42, 0xff]
  files := [("type", .bytes [0xff]), ("status", .ofText "Full")]

/-- A power adapter. -/
def adapter : PowerSupply where
  name := [0x61, 0x63]
  files := [("type", .ofText "Mains")]

/-- A directory as it may be listed. -/
def shelf : List PowerSupply := [second (.ofText "Full"), damaged, charging, adapter]

/-- The first of the two batteries, with blanks in front of its status. -/
def spacious : PowerSupply :=
  { charging with files := [("type", .ofText "Battery\n"), ("status", .ofText " Charging\n\n")] }

/-- The two statuses differ by a blank and a line end. -/
theorem padded_spacious : charging.Padded spacious := by
  refine ⟨rfl, ?_⟩
  intro name
  by_cases hstatus : name = "status"
  · subst hstatus
    exact .more "Charging\n" " " "\n" (FileContent.text?_ofText _) (by decide) (by decide)
      (FileContent.text?_ofText _)
  · have hother : spacious.file name = charging.file name := by
      simp [file, spacious, charging, List.lookup_cons, beq_eq_false_iff_ne.mpr hstatus]
    rw [hother]
    exact .same

/-- The battery `b1` decides, whatever becomes of the adapter, of the damaged entry and of `b2`. -/
theorem first_battery_decides_of_shelf :
    (names shelf).Nodup ∧ First shelf charging ∧ state (some shelf) = .charging ∧
    state (some shelf.reverse) = .charging ∧
    state (some [second .unreadable, charging]) = .charging ∧
    state (some (shelf.map fun s => if s.name = charging.name then spacious else s)) =
      .charging := by
  have hnames : (names shelf).Nodup := by decide
  obtain ⟨-, -, hshows, hperm, hsilent, hpad⟩ := first_battery_decides (some shelf) hnames
  have hholds : ∀ word, (FileContent.ofText (word ++ "\n")).Holds word := by
    intro word
    exact ⟨_, [], ['\n'], FileContent.text?_ofText _, by decide, by decide, by simp⟩
  have hquiet : ∀ s ∈ [damaged, adapter], s.isBattery = false := by decide +kernel
  have hbehind : ∀ status, charging.name < (second status).name := by
    intro status
    exact show charging.name < [0x62, 0x32] by decide
  have hfirst : First shelf charging := by
    refine ⟨by simp [shelf], hholds "Battery", ?_⟩
    intro s hs hsb
    have hbattery : s.isBattery = true := isBattery_iff.mpr hsb
    simp only [shelf, List.mem_cons, List.not_mem_nil, or_false] at hs
    rcases hs with rfl | rfl | rfl | rfl
    · exact List.le_of_lt (hbehind _)
    · simp [hquiet] at hbattery
    · exact List.le_refl _
    · simp [hquiet] at hbattery
  have hstate : state (some shelf) = .charging :=
    (hshows charging hfirst .charging).mpr
      (.inl ⟨("Charging", .charging), by decide, rfl, hholds "Charging"⟩)
  rw [hstate] at hperm hsilent hpad
  refine ⟨hnames, hfirst, hstate, hperm _ (List.reverse_perm shelf), hsilent _ (by decide) ?_,
    hpad _ ?_⟩
  · intro s hs hsb
    refine ⟨charging, hfirst, ?_⟩
    have hbattery : s.isBattery = true := isBattery_iff.mpr hsb
    simp only [Option.getD_some, shelf, List.mem_cons, List.not_mem_nil, or_false] at hs
    have hcases : s ∈ [damaged, adapter] ∨ ∃ status, s = second status := by
      simp only [List.mem_cons, List.not_mem_nil, or_false]
      grind
    rcases hcases with hs | ⟨status, rfl⟩
    · simp [hquiet s hs] at hbattery
    · exact hbehind status
  · intro s hs
    by_cases hname : s.name = charging.name
    · obtain rfl : s = charging := List.inj_on_of_nodup_map hnames hs hfirst.mem hname
      simpa using padded_spacious
    · rw [if_neg hname]
      exact ⟨rfl, fun name => .same⟩

end PowerSupply

end ModemWatch
