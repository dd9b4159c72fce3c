import ModemWatch.CommandLine.Run
import ModemWatch.Proofs.Documents

/-!
# Settings are read back

What is written of settings is a record of two tables with six fields.  Some document says it, so
whoever writes documents writes it, and the text is one of a document again.  A table can be taken
out of a document, or a key with its value.  What is left is still a document, and it says records
with fields missing.  A missing field is no fault.  It has its default, and the other fields do not
notice.

Nothing here is about the way in which a text is read or written.  All that is used of a codec is
that it reads and writes documents; and since the keys of a table have no order, all that is used of
the data is what stands under each key.

* `Toml.Document.Says.lookup_without` — what the rest of a document says under each name;
* `Settings.says_document` — settings can be said by a document;
* `Settings.trackingOfDatum_rest`, `Settings.pollOfDatum_rest` — reading a table with some keys;
* `Settings.parse_without` — what is left of a document is read;
* `Settings.text_is_faithful` — all of it, for the text that a check prints.
-/

namespace ModemWatch

/-! ## Records without an order -/

section Records

variable {α β : Type} {name : String}

theorem lookup_of_mem {l : List (String × β)} {b : β} (h : (l.map Prod.fst).Nodup)
    (hmem : (name, b) ∈ l) : l.lookup name = some b := by
  cases hl : l.lookup name with
  | none => exact absurd (List.lookup_eq_none_iff.mp hl _ hmem) (by simp)
  | some b' =>
    obtain ⟨front, back, heq, -⟩ := List.lookup_eq_some_iff.mp hl
    have hfound : (name, b') ∈ l := by simp [heq]
    rw [Toml.eq_of_nodup_keys h hmem hfound]

theorem lookup_filter (l : List (String × β)) (p : String → Bool) (name : String) :
    (l.filter fun e => p e.1).lookup name = if p name then l.lookup name else none := by
  induction l with
  | nil => simp
  | cons e l ih =>
    obtain ⟨key, value⟩ := e
    cases hkey : name == key with
    | true =>
      obtain rfl := beq_iff_eq.mp hkey
      cases hp : p name <;> simp [hp, ih]
    | false => cases hp : p key <;> simp [hp, List.lookup_cons, ih, hkey]

/-- Entries can be looked up in any order. -/
theorem lookup_perm {l more : List (String × β)} (h : l.Perm more)
    (hdistinct : (more.map Prod.fst).Nodup) (name : String) :
    l.lookup name = more.lookup name := by
  by_cases hmem : name ∈ more.map Prod.fst
  · obtain ⟨e, he, rfl⟩ := List.mem_map.mp hmem
    rw [lookup_of_mem (b := e.2) hdistinct he,
      lookup_of_mem (b := e.2) ((h.map Prod.fst).nodup_iff.mpr hdistinct) (h.mem_iff.mpr he)]
  · rw [Toml.lookup_of_notMem hmem, Toml.lookup_of_notMem (mt (h.map Prod.fst).mem_iff.mp hmem)]

/-- A record whose keys differ can be asked for its fields. -/
theorem Datum.fields_of_nodup {l : List (String × Datum)} (h : (l.map Prod.fst).Nodup)
    (c : Convention) (names : List String) :
    Datum.fields c names (.record l) = .ok ⟨l, false⟩ := by
  have hrepeated : Datum.repeated? names l = none := by
    refine List.find?_eq_none.mpr ?_
    intro name _
    have hcount : (l.map Prod.fst).countP (· == name) ≤ 1 :=
      List.nodup_iff_count_le_one.mp h name
    rw [List.countP_map] at hcount
    exact fun h => absurd (of_decide_eq_true h) (Nat.not_lt.mpr hcount)
  simp only [Datum.fields, hrepeated]

/-- The entries of a record that are left when some keys are taken out, in whatever order. -/
structure Rest (p : String → Bool) (written rest : List (String × Datum)) : Prop where
  distinct : (written.map Prod.fst).Nodup
  perm : rest.Perm (written.filter fun e => p e.1)

variable {p : String → Bool} {written rest : List (String × Datum)}

theorem Rest.lookup (h : Rest p written rest) (name : String) :
    rest.lookup name = if p name then written.lookup name else none := by
  rw [lookup_perm h.perm (h.distinct.sublist (List.filter_sublist.map _)), lookup_filter]

theorem Rest.fields (h : Rest p written rest) (c : Convention) (names : List String) :
    Datum.fields c names (.record rest) = .ok ⟨rest, false⟩ :=
  Datum.fields_of_nodup ((h.perm.map Prod.fst).nodup_iff.mpr
    (h.distinct.sublist (List.filter_sublist.map _))) c names

/-- A field that was taken out has its default, and any other one what was written. -/
theorem Rest.withDefault (h : Rest p written rest) {decode : Datum → Except Fault α} {a : α}
    {d : Datum} (hl : written.lookup name = some d) (hd : decode d = .ok a) (default : α)
    (positional : Bool) :
    Fields.withDefault name default decode ⟨rest, positional⟩ =
      .ok (if p name then a else default) := by
  unfold Fields.withDefault Fields.get?
  rw [h.lookup, hl]
  cases p name
  · rfl
  · exact hd

end Records

/-! ## Documents with parts taken out -/

namespace Toml

namespace Block

variable {b b' : Block} {d e : Datum} {written : List (String × Datum)}

/-- Data that one block says are said by the same blocks. -/
theorem Says.trans (h : b.Says d) (hd : b'.Says d) (he : b'.Says e) : b.Says e := by
  obtain ⟨fields, rfl, hfields⟩ := h
  obtain ⟨more, rfl, hmore⟩ := he
  exact ⟨more, rfl, hmore.trans ((says_record.mp hd).symm.trans hfields)⟩

/-- The entries of a block whose keys were not taken out. -/
theorem Says.rest (h : b.Says (.record written)) {out : Part → Bool}
    {rest : List (String × Datum)} (hrest : (b.without out).Says (.record rest)) :
    Rest (fun key => !out (.key b.name key)) written rest := by
  have hwritten := says_record.mp h
  constructor
  · rw [(hwritten.map Prod.fst).nodup_iff, List.map_map]
    exact b.distinct
  · refine (says_record.mp hrest).trans ((hwritten.filter _).trans ?_).symm
    rw [List.filter_map]
    exact .rfl

end Block

namespace Document

variable {doc doc' : Document} {d e : Datum} {tables : List (String × Datum)}

/-- Data that one document says are said by the same documents. -/
theorem Says.trans (h : doc.Says d) (hd : doc'.Says d) (he : doc'.Says e) : doc.Says e := by
  obtain ⟨tables, rfl, hnames, hsaid⟩ := h
  obtain ⟨more, rfl, hmore, hmoreSays⟩ := he
  have hnames' := (says_record.mp hd).1
  refine ⟨more, rfl, hmore.trans (hnames'.symm.trans hnames), fun b hb => ?_⟩
  obtain ⟨table, hmem, htable⟩ := hsaid b hb
  obtain ⟨b', hb', hname, htable'⟩ := hd.exists_block hmem
  obtain ⟨table', hmem', hsaid'⟩ := hmoreSays b' hb'
  exact ⟨table', hname ▸ hmem', htable.trans htable' hsaid'⟩

/-- **What is left of a document**: nothing under the name of a table that was taken out, and under
that of any other table the entries whose keys were not. -/
theorem Says.lookup_without (h : doc.Says (.record tables)) {out : Part → Bool}
    {left : List (String × Datum)} (hleft : (doc.without out).Says (.record left))
    {name : String} {written : List (String × Datum)} (hmem : (name, .record written) ∈ tables) :
    if out (.table name) then left.lookup name = none
    else ∃ rest, left.lookup name = some (.record rest) ∧
      Rest (fun key => !out (.key name key)) written rest := by
  obtain ⟨b, hb, rfl, hwritten⟩ := h.exists_block hmem
  obtain ⟨hnames, hsaid⟩ := says_record.mp hleft
  split
  · next hout =>
    refine lookup_of_notMem ?_
    intro hname
    obtain ⟨b', hb', hname'⟩ := List.mem_map.mp (hnames.mem_iff.mp hname)
    obtain ⟨kept, -, hkept, rfl⟩ := mem_without.mp hb'
    rw [show kept.name = b.name from hname', hout] at hkept
    cases hkept
  · next hout =>
    obtain ⟨table, hmem', rest, rfl, hrest⟩ := hsaid (b.without out)
      (mem_without.mpr ⟨b, hb, Bool.eq_false_iff.mpr hout, rfl⟩)
    exact ⟨rest, lookup_of_mem hleft.distinct hmem', hwritten.rest ⟨rest, rfl, hrest⟩⟩

/-- A field that is a table has its default if the table was taken out, and otherwise what its
entries are read as that were not. -/
theorem Says.withDefault_without {α : Type} (h : doc.Says (.record tables)) {out : Part → Bool}
    {left : List (String × Datum)} (hleft : (doc.without out).Says (.record left))
    {name : String} {written : List (String × Datum)} (hmem : (name, .record written) ∈ tables)
    {decode : Datum → Except Fault α} {a : α}
    (hdecode : ∀ rest, Rest (fun key => !out (.key name key)) written rest →
      decode (.record rest) = .ok a) (default : α) (positional : Bool) :
    Fields.withDefault name default decode ⟨left, positional⟩ =
      .ok (if out (.table name) then default else a) := by
  have hlookup := h.lookup_without hleft hmem
  unfold Fields.withDefault Fields.get?
  cases hout : out (.table name) with
  | true =>
    rw [hout, if_pos rfl] at hlookup
    rw [hlookup]
    rfl
  | false =>
    rw [hout, if_neg Bool.false_ne_true] at hlookup
    obtain ⟨rest, hlookup, hrest⟩ := hlookup
    rw [hlookup]
    exact hdecode rest hrest

end Document

end Toml

/-! ## What settings are written as -/

theorem Variant.ofName?_name (v : Variant) : Named.ofName? (Named.name v) = some v := by
  cases v <;> decide

/-- A name is read back. -/
theorem Datum.asName_ofName (c : Convention) (v : Variant) :
    Datum.asName c (.ofName v) = .ok v := by
  simp [Datum.asName, Datum.ofName, Datum.keyed, Variant.ofName?_name]

/-- A list of names is read back. -/
theorem Datum.asItems_ofName (c : Convention) (l : List Variant) :
    Datum.asItems (Datum.asName c) (.ofList .ofName l) = .ok l := by
  show Datum.decodeEach (Datum.asName c) (l.map .ofName) = .ok l
  induction l with
  | nil => rfl
  | cons v l ih =>
    rw [List.map_cons, Datum.decodeEach, Datum.asName_ofName, ih]

theorem Datum.asBool_boolean (b : Bool) : Datum.asBool (.boolean b) = .ok b := rfl

theorem Datum.asText_text (s : String) : Datum.asText (.text s) = .ok s := rfl

/-- A number of 32 bits is read back. -/
theorem Datum.asUInt32_ofUInt32 (n : UInt32) : Datum.asUInt32 (.ofUInt32 n) = .ok n := by
  have hn := n.toNat_lt
  have hbounds : (0 : Int) ≤ n.toNat ∧ (n.toNat : Int) ≤ 4294967295 := by omega
  simp only [Datum.asUInt32, Datum.ofUInt32, Datum.asInt, if_pos hbounds]
  simp [Except.map]

namespace Toml

/-- A number of 32 bits has a value that stands for it. -/
theorem value_ofUInt32 (n : UInt32) : Value (Nat.toDigits 10 n.toNat) (.ofUInt32 n) := by
  have hn := n.toNat_lt
  exact .scalar (.number (by omega))

theorem value_text (s : String) : Value (quote s).toList (.text s) :=
  .scalar (.text (quotation_quote s))

/-- So has a list of names. -/
theorem value_ofName (l : List Variant) :
    Value (writeList (l.map fun v => quote (Named.name v))).toList (.ofList .ofName l) := by
  refine value_writeList ?_
  rw [List.forall₂_map_left_iff, List.forall₂_map_right_iff]
  exact List.forall₂_same.mpr fun v _ => .text (quotation_quote (Named.name v))

end Toml

namespace Settings

open Toml (Block Document Field Filler Gap)

/-- A table of what to track. -/
def trackingBlock (t : TrackingSettings) : Block :=
  .ofFields "devmon" (.gap Gap.nil) [
    .ofValue "tracking" (by decide) (Toml.value_ofName t.tracking),
    .ofValue "cell_info_interval_short_ms" (by decide) (Toml.value_ofUInt32 t.short),
    .ofValue "cell_info_interval_long_ms" (by decide) (Toml.value_ofUInt32 t.long)]
    (by decide) (by simp [Field.ofValue])

/-- A table of what to poll, behind an empty line. -/
def pollBlock (t : PollSettings) : Block :=
  .ofFields "poll" (.line Toml.lineEnd_lineBreak (.gap Gap.nil)) [
    .ofValue "enabled" (by decide) (.scalar (.boolean t.enabled)),
    .ofValue "screen_state_path" (by decide) (Toml.value_text t.screenStatePath),
    .ofValue "power_supply_dir" (by decide) (Toml.value_text t.powerSupplyDir)]
    (by decide) (by simp [Field.ofValue])

/-- A document for settings. -/
def document (s : Settings) : Document where
  blocks := [trackingBlock s.devmon, pollBlock s.poll]
  tail := []
  filler := .gap Gap.nil
  distinct := by simp [trackingBlock, pollBlock, Block.ofFields]

/-- It says the settings. -/
theorem says_document (s : Settings) : s.document.Says s.datum := by
  refine ⟨_, rfl, .rfl, ?_⟩
  refine List.forall_mem_cons.mpr ⟨?_, List.forall_mem_singleton.mpr ?_⟩
  · exact ⟨_, List.mem_cons_self, _, rfl, .rfl⟩
  · exact ⟨_, List.mem_cons_of_mem _ List.mem_cons_self, _, rfl, .rfl⟩

/-! ## Reading what is left -/

/-- Settings with the defaults for some of their fields: those whose keys, or whose tables, are
taken out. -/
def defaulted (out : Toml.Part → Bool) (s : Settings) : Settings :=
  let left {α : Type} (table key : String) (written default : α) : α :=
    if out (.table table) || out (.key table key) then default else written
  let default : Settings := {}
  { devmon :=
      { tracking := left "devmon" "tracking" s.devmon.tracking default.devmon.tracking
        short := left "devmon" "cell_info_interval_short_ms" s.devmon.short default.devmon.short
        long := left "devmon" "cell_info_interval_long_ms" s.devmon.long default.devmon.long }
    poll :=
      { enabled := left "poll" "enabled" s.poll.enabled default.poll.enabled
        screenStatePath :=
          left "poll" "screen_state_path" s.poll.screenStatePath default.poll.screenStatePath
        powerSupplyDir :=
          left "poll" "power_supply_dir" s.poll.powerSupplyDir default.poll.powerSupplyDir } }

/-- The entries of the table of what to track. -/
def trackingEntries (t : TrackingSettings) : List (String × Datum) :=
  [("tracking", .ofList .ofName t.tracking),
    ("cell_info_interval_short_ms", .ofUInt32 t.short),
    ("cell_info_interval_long_ms", .ofUInt32 t.long)]

/-- The entries of the table of what to poll. -/
def pollEntries (t : PollSettings) : List (String × Datum) :=
  [("enabled", .boolean t.enabled),
    ("screen_state_path", .text t.screenStatePath),
    ("power_supply_dir", .text t.powerSupplyDir)]

theorem datum_eq (s : Settings) :
    s.datum = .record
      [("devmon", .record (trackingEntries s.devmon)), ("poll", .record (pollEntries s.poll))] :=
  rfl

section Rest

variable {p : String → Bool} {rest : List (String × Datum)}

/-- Reading what is left of the table of what to track. -/
theorem trackingOfDatum_rest {t : TrackingSettings} (h : Rest p (trackingEntries t) rest) :
    let default : TrackingSettings := {}
    trackingOfDatum .toml (.record rest) = .ok {
      tracking := if p "tracking" then t.tracking else default.tracking
      short := if p "cell_info_interval_short_ms" then t.short else default.short
      long := if p "cell_info_interval_long_ms" then t.long else default.long } := by
  intro default
  have htracking : (trackingEntries t).lookup "tracking" = some (.ofList .ofName t.tracking) := rfl
  have hshort : (trackingEntries t).lookup "cell_info_interval_short_ms" =
      some (.ofUInt32 t.short) := rfl
  have hlong : (trackingEntries t).lookup "cell_info_interval_long_ms" =
      some (.ofUInt32 t.long) := rfl
  rw [trackingOfDatum, h.fields]
  simp only [bind, Except.bind]
  rw [h.withDefault htracking (Datum.asItems_ofName _ _)]
  simp only [h.withDefault hshort (Datum.asUInt32_ofUInt32 _),
    h.withDefault hlong (Datum.asUInt32_ofUInt32 _)]
  rfl

/-- Reading what is left of the table of what to poll. -/
theorem pollOfDatum_rest {t : PollSettings} (h : Rest p (pollEntries t) rest) :
    let default : PollSettings := {}
    pollOfDatum .toml (.record rest) = .ok {
      enabled := if p "enabled" then t.enabled else default.enabled
      screenStatePath :=
        if p "screen_state_path" then t.screenStatePath else default.screenStatePath
      powerSupplyDir :=
        if p "power_supply_dir" then t.powerSupplyDir else default.powerSupplyDir } := by
  intro default
  have henabled : (pollEntries t).lookup "enabled" = some (.boolean t.enabled) := rfl
  have hscreen : (pollEntries t).lookup "screen_state_path" = some (.text t.screenStatePath) := rfl
  have hpower : (pollEntries t).lookup "power_supply_dir" = some (.text t.powerSupplyDir) := rfl
  rw [pollOfDatum, h.fields]
  simp only [bind, Except.bind]
  rw [h.withDefault henabled (Datum.asBool_boolean _)]
  simp only [h.withDefault hscreen (Datum.asText_text _),
    h.withDefault hpower (Datum.asText_text _)]
  rfl

end Rest

variable {doc : Document} {toml : Toml.Codec} {s : Settings}

/-- What is left of a document that says settings says them with defaults for what was taken out. -/
theorem ofDatum_without (h : doc.Says s.datum) {out : Toml.Part → Bool} {d : Datum}
    (hd : (doc.without out).Says d) : ofDatum .toml d = .ok (s.defaulted out) := by
  rw [datum_eq] at h
  have ⟨left, hrecord, _⟩ := hd
  subst hrecord
  rw [ofDatum, Datum.fields_of_nodup hd.distinct]
  simp only [bind, Except.bind]
  rw [h.withDefault_without hd List.mem_cons_self fun _ hrest => trackingOfDatum_rest hrest]
  simp only [h.withDefault_without hd (List.mem_cons_of_mem _ List.mem_cons_self)
    fun _ hrest => pollOfDatum_rest hrest]
  -- a field is gone if it is taken out or its table is
  refine congrArg Except.ok (congrArg₂ Settings.mk ?_ ?_)
  · cases hout : out (.table "devmon") <;> simp [hout, ← Bool.not_eq_true]
  · cases hout : out (.table "poll") <;> simp [hout, ← Bool.not_eq_true]

/-- **What is left of a document that says settings is read** as the settings with defaults for what
was taken out. -/
theorem parse_without (hreads : toml.ReadsDocuments) (h : doc.Says s.datum)
    (out : Toml.Part → Bool) : parse toml (doc.without out).text = .ok (s.defaulted out) := by
  obtain ⟨d, hread, hsaid⟩ := hreads (doc.without out)
  rw [parse, hread]
  simp only
  rw [ofDatum_without h hsaid]

/-- If nothing is taken out the whole document is left. -/
theorem without_nothing (doc : Document) : doc.without (fun _ => false) = doc := by
  have hblock : Block.without (fun _ => false) = id := by
    funext b
    simp [Block.without]
  simp [Document.without, hblock]

/-- **A document that says settings is read** as the settings. -/
theorem parse_text (hreads : toml.ReadsDocuments) (h : doc.Says s.datum) :
    parse toml doc.text = .ok s := by
  have hparse := parse_without hreads h (fun _ => false)
  rwa [without_nothing] at hparse

end Settings

/-- **The text of settings is faithful.**  It is what is printed when a settings file is checked.
Whoever reads it gets the same settings: any list of variants, even the empty one, any intervals,
and any paths, whatever characters they are made of.

The text is a document of tables, and of keys with their values.  Any of these may be taken out of
it.  What is left is read as well: a field whose key was taken out, or whose table was, has its
default, and every other field is as it was.

So it is for whatever reads and writes TOML documents; how it lays out and quotes does not
matter. -/
theorem Settings.text_is_faithful (toml : Toml.Codec) (hreads : toml.ReadsDocuments)
    (hwrites : toml.WritesDocuments) (s : Settings) :
    ∃ text, toml.write s.datum = .ok text ∧
      parse toml text = .ok s ∧
      (∀ path file, loadStrict toml path file = .ok s →
        checkConfig toml path file = { code := 0, stdout := text }) ∧
      (∃ doc : Toml.Document, doc.text = text) ∧
      ∀ doc : Toml.Document, doc.text = text → doc.Says s.datum ∧
        ∀ out : Toml.Part → Bool, parse toml (doc.without out).text = .ok (s.defaulted out) := by
  obtain ⟨doc, hwritten, hdoc⟩ := hwrites s.datum ⟨s.document, s.says_document⟩
  refine ⟨doc.text, hwritten, parse_text hreads hdoc, ?_, ⟨doc, rfl⟩, fun doc' htext => ?_⟩
  · intro path file h
    simp only [checkConfig, h, hwritten]
  · -- both documents are read as the same data, so they say the same
    obtain ⟨d, hread, hd⟩ := hreads doc
    obtain ⟨d', hread', hd'⟩ := hreads doc'
    rw [htext, hread] at hread'
    obtain rfl := Except.ok.inj hread'
    have hsaid := hd'.trans hd hdoc
    exact ⟨hsaid, fun out => parse_without hreads hsaid out⟩

/-- Settings that nobody can work with, with a path that is hard to quote. -/
def Settings.awkward : Settings where
  devmon := { tracking := [], short := 0, long := 4294967295 }
  poll := { enabled := false, screenStatePath := "\"\"\"'\\\n\x01", powerSupplyDir := "" }

/-- The path is written over several lines, with three kinds of escape, and the empty list is no
missing list.  Without the key of the list and without the second table, the list and the fields of
the table have their defaults, and the intervals are as they were.  The check of an empty file
prints the defaults. -/
theorem Settings.text_is_faithful_of_awkward :
    let table := "[devmon]\n"
    let list := "tracking = []\n"
    let intervals :=
      "cell_info_interval_short_ms = 0\ncell_info_interval_long_ms = 4294967295\n"
    let poll := "\n[poll]\nenabled = false\n" ++
      "screen_state_path = \"\"\"\n\"\"\\\"'\\\\\n\\u0001\"\"\"\npower_supply_dir = \"\"\n"
    let defaults := "[devmon]\ntracking = [\"ds\"]\n" ++
      "cell_info_interval_short_ms = 2000\ncell_info_interval_long_ms = 30000\n\n" ++
      "[poll]\nenabled = true\nscreen_state_path = \"/var/lib/batman/screen\"\n" ++
      "power_supply_dir = \"/sys/class/power_supply\"\n"
    parse Toml.codec (table ++ list ++ intervals ++ poll) = .ok awkward ∧
    parse Toml.codec (table ++ intervals) =
      .ok { devmon := { short := 0, long := 4294967295 } } ∧
    checkConfig Toml.codec "devmon.toml" (.ofText "") = { code := 0, stdout := defaults } := by
  intro table list intervals poll defaults
  obtain ⟨text, hwritten, hparse, -, -, hwithout⟩ := Settings.text_is_faithful Toml.codec
    Toml.codec_readsDocuments Toml.codec_writesDocuments awkward
  have htext : Toml.codec.write awkward.datum = .ok (table ++ list ++ intervals ++ poll) := by
    decide +kernel
  obtain rfl := Except.ok.inj (hwritten.symm.trans htext)
  have hdocument : awkward.document.text = table ++ list ++ intervals ++ poll := by decide +kernel
  let out : Toml.Part → Bool := fun p => p == .key "devmon" "tracking" || p == .table "poll"
  have hless : (awkward.document.without out).text = table ++ intervals := by decide +kernel
  have hdefaults : awkward.defaulted out = { devmon := { short := 0, long := 4294967295 } } := by
    decide +kernel
  refine ⟨hparse, ?_, ?_⟩
  · rw [← hless, ← hdefaults]
    exact (hwithout awkward.document hdocument).2 out
  · obtain ⟨printed, hprinted, -, hcheck, -⟩ := Settings.text_is_faithful Toml.codec
      Toml.codec_readsDocuments Toml.codec_writesDocuments {}
    have hdefault : Toml.codec.write ({} : Settings).datum = .ok defaults := by decide +kernel
    obtain rfl := Except.ok.inj (hprinted.symm.trans hdefault)
    have hempty : loadStrict Toml.codec "devmon.toml" (.ofText "") = .ok {} := by decide +kernel
    exact hcheck _ _ hempty

end ModemWatch
