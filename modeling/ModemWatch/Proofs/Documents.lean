import Mathlib.Data.List.Nodup
import ModemWatch.Proofs.Values

/-!
# Documents

A document is read as data that it says, and whatever a document can say is written as a document
that says it.

A document is read line by line, and each line changes what has been read so far: a draft with the
tables that are complete and the one that is being filled.  `Leads` says what a part of a text makes
of a draft, whatever comes after it, and parts that are read one after the other compose.  While the
lines of a block are read the draft is `filling` it: the blocks before it are complete, and it has
the fields that have been read.  Keys and names must differ, or a line would be a fault.

* `leads_headerLine`, `leads_fieldLine` — the two kinds of lines;
* `leads_fields`, `leads_block`, `leads_blocks` — all fields, all of a table, all tables;
* `codec_readsDocuments` — the reader of the program reads documents;
* `codec_writesDocuments` — its writer writes them.
-/

namespace ModemWatch.Toml

variable {text rest more source ending : List Char} {name : String} {c : Char}
  {d d' d'' : Draft}

/-! ## Blanks and comments -/

theorem skipBlank_gap (h : Gap text) : skipBlank (text ++ rest) = skipBlank rest :=
  List.dropWhile_append_of_pos fun c hc => by rcases h c hc with rfl | rfl <;> rfl

theorem skipBlank_of_ne (h : c ≠ ' ') (htab : c ≠ '\t') : skipBlank (c :: rest) = c :: rest :=
  List.dropWhile_cons_of_neg (by simp [h, htab])

theorem skipBlank_of_first (hc : isFirst c = true) : skipBlank (c :: rest) = c :: rest := by
  have hne := ne_of_isFirst hc
  exact skipBlank_of_ne (hne ' ' (by decide)) (hne '\t' (by decide))

/-- The end of a line is taken off. -/
theorem lineEnd_of_lineEnd (h : LineEnd ending) : lineEnd (ending ++ rest) = some rest := by
  cases h with
  | bare hgap hbreak =>
    rw [lineEnd, List.append_assoc, skipBlank_gap hgap]
    rcases eq_or_eq_of_mem_lineBreaks hbreak with rfl | rfl <;> rfl
  | @comment gap note nl hgap hnote hbreak =>
    have hskip : skipComment (note ++ (nl ++ rest)) = nl ++ rest := by
      refine (takeWhile_dropWhile_append hnote ?_).2
      intro c hc
      rcases eq_or_eq_of_mem_lineBreaks hbreak with rfl | rfl <;> cases hc <;> decide
    rw [lineEnd, List.append_assoc, skipBlank_gap hgap, List.cons_append, List.append_assoc]
    simp only [skipBlank_of_ne (c := '#') (by decide) (by decide), hskip]
    rcases eq_or_eq_of_mem_lineBreaks hbreak with rfl | rfl <;> rfl

/-! ## Lines -/

/-- A line makes another draft of a draft, whatever comes after it. -/
def LineLeads (text : List Char) (d d' : Draft) : Prop :=
  ∀ rest, ∃ left, line d (text ++ rest) = some (d', left) ∧ lineEnd left = some rest

/-- A line that holds nothing but its end leaves a draft alone. -/
theorem lineLeads_lineEnd (h : LineEnd ending) (d : Draft) : LineLeads ending d d := by
  intro rest
  cases h with
  | @bare gap nl hgap hbreak =>
    refine ⟨nl ++ rest, ?_, lineEnd_of_lineEnd (.bare Gap.nil hbreak)⟩
    rw [line, List.append_assoc, skipBlank_gap hgap]
    rcases eq_or_eq_of_mem_lineBreaks hbreak with rfl | rfl <;> rfl
  | @comment gap note nl hgap hnote hbreak =>
    refine ⟨'#' :: (note ++ nl) ++ rest, ?_, lineEnd_of_lineEnd (.comment Gap.nil hnote hbreak)⟩
    rw [line, List.append_assoc, skipBlank_gap hgap]
    rfl

/-- Reading a part of a text takes a draft to another one, whatever comes behind. -/
def Leads (text : List Char) (d d' : Draft) : Prop :=
  ∀ rest fuel, text.length + rest.length ≤ fuel →
    ∃ left, rest.length ≤ left ∧ lines fuel d (text ++ rest) = lines left d' rest

theorem Leads.nil (d : Draft) : Leads [] d d := by
  intro rest fuel hfuel
  exact ⟨fuel, by simpa using hfuel, rfl⟩

theorem Leads.append (h : Leads text d d') (h' : Leads more d' d'') :
    Leads (text ++ more) d d'' := by
  intro rest fuel hfuel
  rw [List.length_append] at hfuel
  obtain ⟨between, hbetween, hread⟩ := h (more ++ rest) fuel (by rw [List.length_append]; omega)
  obtain ⟨left, hleft, hread'⟩ := h' rest between (by rw [List.length_append] at hbetween; omega)
  exact ⟨left, hleft, by rw [List.append_assoc, hread, hread']⟩

/-- A line is read up to its end. -/
theorem LineLeads.leads (h : LineLeads text d d') (hne : text ≠ []) : Leads text d d' := by
  intro rest fuel hfuel
  have hlength := List.length_pos_of_ne_nil hne
  obtain ⟨fuel, rfl⟩ : ∃ n, fuel = n + 1 := ⟨fuel - 1, by omega⟩
  obtain ⟨left, hline, hend⟩ := h rest
  refine ⟨fuel, by omega, ?_⟩
  rw [lines, hline]
  · simp only [hend]
  · simpa using fun hnil => absurd hnil hne

theorem LineEnd.ne_nil (h : LineEnd ending) : ending ≠ [] := by
  have hbreaks : ∀ nl ∈ lineBreaks, nl ≠ [] := by decide
  cases h with
  | bare _ hbreak => simp [hbreaks _ hbreak]
  | comment => simp

/-- Empty lines and comments leave a draft alone; what is left of them are the blanks in front of
the next line. -/
theorem Filler.exists_gap {front : List Char} (h : Filler front) :
    ∃ full gap, front = full ++ gap ∧ Gap gap ∧ ∀ d, Leads full d d := by
  induction h with
  | gap hgap => exact ⟨[], _, rfl, hgap, Leads.nil⟩
  | @line ending s hending _ ih =>
    obtain ⟨full, gap, rfl, hgap, hleads⟩ := ih
    refine ⟨ending ++ full, gap, by rw [List.append_assoc], hgap, fun d => ?_⟩
    exact ((lineLeads_lineEnd hending d).leads hending.ne_nil).append (hleads d)

theorem line_gap {gap : List Char} (h : Gap gap) (d : Draft) (rest : List Char) :
    line d (gap ++ rest) = line d rest := by
  rw [line, line, skipBlank_gap h]

/-- A line with all that stands in front of it. -/
theorem LineLeads.behind {front : List Char} (h : LineLeads text d d') (hne : text ≠ [])
    (hfront : Filler front) : Leads (front ++ text) d d' := by
  obtain ⟨full, gap, rfl, hgap, hleads⟩ := hfront.exists_gap
  have hline : LineLeads (gap ++ text) d d' := fun rest => by
    rw [List.append_assoc, line_gap hgap]
    exact h rest
  rw [List.append_assoc]
  exact (hleads d).append (hline.leads (by simp [hne]))

/-! ## Keys -/

/-- A bare key begins with none of the signs that mean something else in front of a line. -/
theorem IsBareKey.exists_first (h : IsBareKey name) :
    ∃ c r, name.toList = c :: r ∧
      ∀ d ∈ [' ', '\t', '\n', '\x0d', '#', '[', '"', '\''], c ≠ d := by
  have hno :
      [' ', '\t', '\n', '\x0d', '#', '[', '"', '\''].all (fun d => !isBareKeyChar d) = true := by
    decide
  obtain ⟨c, r, hname⟩ := List.exists_cons_of_ne_nil h.1
  refine ⟨c, r, hname, ?_⟩
  rintro d hd rfl
  have hnot := List.all_eq_true.mp hno c hd
  rw [h.2 c (by rw [hname]; exact List.mem_cons_self)] at hnot
  cases hnot

theorem skipBlank_key (h : IsBareKey name) :
    skipBlank (name.toList ++ rest) = name.toList ++ rest := by
  obtain ⟨c, r, hname, hne⟩ := h.exists_first
  rw [hname]
  exact skipBlank_of_ne (hne ' ' (by decide)) (hne '\t' (by decide))

theorem keyPart_of_bare (h : IsBareKey name) (hrest : ∀ c ∈ rest.head?, isBareKeyChar c = false) :
    keyPart (name.toList ++ rest) = some (name, rest) := by
  obtain ⟨htake, hdrop⟩ := takeWhile_dropWhile_append h.2 hrest
  have hquoted : readQuotedKey (name.toList ++ rest) = none := by
    obtain ⟨c, r, hname, hne⟩ := h.exists_first
    rw [hname]
    unfold readQuotedKey
    split
    · next hq => exact absurd (List.cons.inj hq).1 (hne '"' (by decide))
    · next hq => exact absurd (List.cons.inj hq).1 (hne '\'' (by decide))
    · rfl
  simp only [keyPart, hquoted, htake, hdrop]
  rw [List.isEmpty_eq_false_iff.mpr h.1, String.ofList_toList]
  rfl

/-- A bare key with blanks around it, in front of a sign that ends it. -/
theorem key_of_bare {left right : List Char} {sign : Char} (h : IsBareKey name) (hleft : Gap left)
    (hright : Gap right) (hsign : sign ∈ ['=', ']']) :
    key (left ++ (name.toList ++ (right ++ sign :: rest))) = some (([], name), sign :: rest) := by
  have hends : ∀ c ∈ (right ++ sign :: rest).head?, isBareKeyChar c = false := by
    intro c hc
    cases right with
    | nil =>
      obtain rfl : sign = c := Option.some.inj hc
      have hall : ∀ sign ∈ ['=', ']'], isBareKeyChar sign = false := by simp [isBareKeyChar]
      exact hall sign hsign
    | cons d right =>
      obtain rfl : d = c := Option.some.inj hc
      rcases hright d List.mem_cons_self with rfl | rfl <;> decide
  have hskip : skipBlank (right ++ sign :: rest) = sign :: rest := by
    have hall : ∀ sign ∈ ['=', ']'], sign ≠ ' ' ∧ sign ≠ '\t' := by simp
    rw [skipBlank_gap hright]
    exact skipBlank_of_ne (hall sign hsign).1 (hall sign hsign).2
  rw [key, keyParts, skipBlank_gap hleft, skipBlank_key h, keyPart_of_bare h hends]
  simp only [hskip]
  split
  · next hdot => exact absurd ((List.cons.inj hdot).1 ▸ hsign) (by decide)
  · rfl

/-! ## Tables -/

/-- A line that begins with a bare key holds a key with its value. -/
theorem line_of_bareKey (h : IsBareKey name) :
    line d (name.toList ++ rest) = keyValue d (name.toList ++ rest) := by
  obtain ⟨c, r, hname, hne⟩ := h.exists_first
  rw [line, skipBlank_key h, hname]
  split
  · next hl => cases hl
  · next hl => exact absurd (List.cons.inj hl).1 (hne '\n' (by decide))
  · next hl => exact absurd (List.cons.inj hl).1 (hne '\x0d' (by decide))
  · next hl => exact absurd (List.cons.inj hl).1 (hne '#' (by decide))
  · next hl => exact absurd (List.cons.inj hl).1 (hne '[' (by decide))
  · rfl

/-- A key with its value. -/
theorem leads_fieldLine {key : String} {value : Datum} (hbare : IsBareKey key)
    (hline : FieldLine key value source) (h : d.insert [] key value = some d') :
    Leads source d d' := by
  cases hline with
  | @intro front left right text ending hfront hleft hright hvalue hending =>
    refine LineLeads.behind (fun rest => ⟨ending ++ rest, ?_, lineEnd_of_lineEnd hending⟩)
      (by simp [hbare.1]) hfront
    have hread := readAs_value hvalue
    have hskip : skipBlank (right ++ (text ++ (ending ++ rest))) = text ++ (ending ++ rest) := by
      obtain ⟨c, r, htext, hc⟩ := hread.first
      rw [skipBlank_gap hright, htext]
      exact skipBlank_of_first hc
    have hkey : Toml.key (key.toList ++ (left ++ '=' :: (right ++ (text ++ (ending ++ rest))))) =
        some (([], key), '=' :: (right ++ (text ++ (ending ++ rest)))) :=
      key_of_bare hbare Gap.nil hleft (by decide)
    have hwhole : wholeValue (text ++ (ending ++ rest)) = some (value, ending ++ rest) :=
      hread.read _ _ hending.follows (by rw [List.length_append]; omega)
    simp only [List.append_assoc, List.cons_append]
    rw [line_of_bareKey hbare, keyValue, hkey]
    simp only [hskip, hwhole, h]
    rfl

/-- A header. -/
theorem leads_headerLine (hbare : IsBareKey name) (hline : HeaderLine name source)
    (h : d.openTable [] name = some d') : Leads source d d' := by
  cases hline with
  | @intro front left right ending hfront hleft hright hending =>
    refine LineLeads.behind (fun rest => ⟨ending ++ rest, ?_, lineEnd_of_lineEnd hending⟩)
      (List.cons_ne_nil _ _) hfront
    have hkey : key (left ++ (name.toList ++ (right ++ ']' :: (ending ++ rest)))) =
        some (([], name), ']' :: (ending ++ rest)) := key_of_bare hbare hleft hright (by decide)
    have hbracket : ∀ r,
        left ++ (name.toList ++ (right ++ ']' :: (ending ++ rest))) ≠ '[' :: r := by
      intro r hr
      cases left with
      | nil =>
        obtain ⟨c, more, hname, hne⟩ := hbare.exists_first
        rw [hname] at hr
        exact hne '[' (by decide) (List.cons.inj hr).1
      | cons c left =>
        obtain rfl : c = '[' := (List.cons.inj hr).1
        exact absurd (hleft '[' List.mem_cons_self) (by decide)
    simp only [List.append_assoc, List.cons_append]
    rw [line, skipBlank_of_ne (by decide) (by decide)]
    simp only
    rw [header]
    · rw [hkey]
      simp only [h]
      rfl
    · exact hbracket

variable {b : Block} {before blocks : List Block} {fields : List Field}

/-- The entries of a table that hold its fields. -/
def entries (fields : List Field) : Table := fields.map fun f => (f.key, .value f.datum)

/-- The entries of a text that hold its tables. -/
def tables (blocks : List Block) : Table :=
  blocks.map fun b => (b.name, .table .header (entries b.fields))

/-- The draft behind some tables, while another one is being filled. -/
def filling (before : List Block) (name : String) (fields : List Field) : Draft :=
  { root := tables before, spot := .table [] name, current := entries fields }

/-- Nothing stands behind a key that was not used. -/
theorem lookup_of_notMem {β : Type} {l : List (String × β)} (h : name ∉ l.map Prod.fst) :
    l.lookup name = none := by
  rw [List.lookup_eq_none_iff]
  intro e he
  rw [bne_iff_ne]
  intro hname
  exact h (hname ▸ List.mem_map_of_mem he)

theorem lookup_tables (h : name ∉ before.map Block.name) : (tables before).lookup name = none :=
  lookup_of_notMem (by rwa [tables, List.map_map])

theorem lookup_entries (h : name ∉ fields.map Field.key) : (entries fields).lookup name = none :=
  lookup_of_notMem (by rwa [entries, List.map_map])

theorem finish_filling (h : name ∉ before.map Block.name) :
    (filling before name fields).finish =
      some (tables before ++ [(name, .table .header (entries fields))]) := by
  simp [Draft.finish, filling, Table.within, Table.add, lookup_tables h]

theorem insert_filling (before : List Block) (name : String) {f : Field}
    (h : f.key ∉ fields.map Field.key) :
    (filling before name fields).insert [] f.key f.datum =
      some (filling before name (fields ++ [f])) := by
  have hentries : entries (fields ++ [f]) = entries fields ++ [(f.key, .value f.datum)] :=
    List.map_append
  simp [Draft.insert, filling, Table.insert, Table.within, Table.add, lookup_entries h, hentries]

theorem openTable_of_finish (hd : d.finish = some (tables before))
    (h : name ∉ before.map Block.name) :
    d.openTable [] name = some (filling before name []) := by
  simp [Draft.openTable, hd, Table.within, Table.takePassage, lookup_tables h, filling, entries]

/-- What comes after others in a list without repetitions is none of them. -/
theorem notMem_of_nodup {α : Type} {key : α → String} {l more : List α} {a : α}
    (h : ((l ++ a :: more).map key).Nodup) : key a ∉ l.map key := by
  rw [List.map_append, List.nodup_append'] at h
  intro hmem
  exact h.2.2 hmem (by simp)

/-- Keys are added one after the other to the table that is being filled. -/
theorem leads_fields {more : List Field} (h : ((fields ++ more).map Field.key).Nodup) :
    Leads (more.flatMap Field.source) (filling before name fields)
      (filling before name (fields ++ more)) := by
  induction more generalizing fields with
  | nil => rw [List.append_nil]; exact Leads.nil _
  | cons f more ih =>
    have hline := leads_fieldLine f.bare f.line
      (insert_filling before name (notMem_of_nodup h))
    rw [List.append_cons] at h ⊢
    exact hline.append (ih h)

/-- A table is added to those that were read before. -/
theorem leads_block (hd : d.finish = some (tables before))
    (h : b.name ∉ before.map Block.name) :
    ∃ d', Leads b.source d d' ∧ d'.finish = some (tables (before ++ [b])) := by
  refine ⟨filling before b.name b.fields, ?_, ?_⟩
  · have hfields : Leads (b.fields.flatMap Field.source) (filling before b.name [])
        (filling before b.name ([] ++ b.fields)) := leads_fields b.distinct
    exact (leads_headerLine b.bare b.opens (openTable_of_finish hd h)).append hfields
  · rw [finish_filling h]
    simp [tables]

/-- Tables are read one after the other. -/
theorem leads_blocks (hd : d.finish = some (tables before))
    (h : ((before ++ blocks).map Block.name).Nodup) :
    ∃ d', Leads (blocks.flatMap Block.source) d d' ∧
      d'.finish = some (tables (before ++ blocks)) := by
  induction blocks generalizing d before with
  | nil => exact ⟨d, Leads.nil d, by rwa [List.append_nil]⟩
  | cons b blocks ih =>
    obtain ⟨next, hblock, hnext⟩ := leads_block hd (notMem_of_nodup h)
    rw [List.append_cons] at h ⊢
    obtain ⟨d', hleads, hfinish⟩ := ih hnext h
    exact ⟨d', hblock.append hleads, hfinish⟩

/-! ## Reading -/

/-- A text that begins with blanks, comments or nothing has no byte order mark. -/
theorem skipMark_filler (h : Filler text) (rest : List Char)
    (hrest : ∀ c ∈ rest.head?, c ≠ '\ufeff') : skipMark (text ++ rest) = text ++ rest := by
  have hfirst : ∀ c ∈ (text ++ rest).head?, c ≠ '\ufeff' := by
    intro c hc
    cases text with
    | nil => exact hrest c hc
    | cons d text =>
      have hall : ∀ d ∈ followers, d ≠ '\ufeff' := by simp [followers]
      have hfollows : Follows (d :: text ++ []) := h.follows fun c hc => by cases hc
      obtain rfl : d = c := Option.some.inj hc
      exact hall d (hfollows d rfl)
  unfold skipMark
  split
  · next hmark => exact absurd rfl (hfirst _ (by rw [hmark]; rfl))
  · rfl

theorem HeaderLine.exists_front (h : HeaderLine name source) :
    ∃ front core, source = front ++ '[' :: core ∧ Filler front := by
  cases h with
  | intro hfront => exact ⟨_, _, rfl, hfront⟩

theorem skipMark_document (doc : Document) :
    skipMark (doc.blocks.flatMap Block.source ++ doc.tail) =
      doc.blocks.flatMap Block.source ++ doc.tail := by
  cases hblocks : doc.blocks with
  | nil => simpa using skipMark_filler doc.filler [] (fun c hc => by cases hc)
  | cons b blocks =>
    obtain ⟨front, core, hheader, hfront⟩ := b.opens.exists_front
    rw [List.flatMap_cons, Block.source, hheader]
    simp only [List.append_assoc]
    exact skipMark_filler hfront _ (fun c hc => by cases hc; decide)

/-- What is left at the end does not matter. -/
theorem lines_gap (h : Gap text) {fuel : Nat} (hfuel : text.length ≤ fuel) (d : Draft) :
    lines fuel d text = some d := by
  cases text with
  | nil => cases fuel <;> rfl
  | cons c text =>
    obtain ⟨fuel, rfl⟩ : ∃ n, fuel = n + 1 := ⟨fuel - 1, by simp at hfuel; omega⟩
    have hline : line d (c :: text) = some (d, []) := by
      have hgap := line_gap h d []
      rwa [List.append_nil] at hgap
    rw [lines, hline]
    · cases fuel <;> rfl
    · exact fun hnil => by cases hnil

theorem datumEntries_entries (fields : List Field) :
    datumEntries (entries fields) = fields.map Field.entry := by
  induction fields with
  | nil => rfl
  | cons f fields ih =>
    rw [List.map_cons, ← ih]
    rfl

theorem datumEntries_tables (blocks : List Block) :
    datumEntries (tables blocks) =
      blocks.map fun b => (b.name, .record (b.fields.map Field.entry)) := by
  induction blocks with
  | nil => rfl
  | cons b blocks ih =>
    rw [List.map_cons, ← ih, ← datumEntries_entries]
    rfl

/-- **A document is read** as the record of its tables. -/
theorem read_text (doc : Document) :
    read doc.text =
      some (.record (doc.blocks.map fun b => (b.name, .record (b.fields.map Field.entry)))) := by
  have hd : ({} : Draft).finish = some (tables []) := rfl
  obtain ⟨d, hblocks, hfinish⟩ := leads_blocks hd (by simpa using doc.distinct)
  obtain ⟨full, gap, htail, hgap, hfull⟩ := doc.filler.exists_gap
  obtain ⟨left, hleft, hread⟩ := (hblocks.append (hfull d)) gap
    (doc.blocks.flatMap Block.source ++ doc.tail).length
    (by rw [htail]; simp only [List.length_append]; omega)
  rw [List.append_assoc, ← htail] at hread
  rw [List.nil_append] at hfinish
  rw [read, Document.text, String.toList_ofList, ← datumEntries_tables]
  simp only [skipMark_document, hread, lines_gap hgap hleft, hfinish, Option.map_some]

/-- **The reader of the program reads documents.** -/
theorem codec_readsDocuments : codec.ReadsDocuments := by
  intro doc
  have hread : codec.read doc.text =
      .ok (.record (doc.blocks.map fun b => (b.name, .record (b.fields.map Field.entry)))) := by
    rw [show codec.read doc.text = (read doc.text).elim _ .ok from rfl, read_text]
    rfl
  refine ⟨_, hread, _, rfl, ?_, ?_⟩
  · rw [List.map_map]
    exact .rfl
  · intro b hb
    exact ⟨_, List.mem_map.mpr ⟨b, hb, rfl⟩, _, rfl, .rfl⟩

/-! ## Writing -/

theorem writeKey_of_bare (h : IsBareKey name) : writeKey name = some name := by
  have hall : name.toList.all isBareKeyChar = true := List.all_eq_true.mpr h.2
  have hne : name.isEmpty = false := by simpa using h.1
  rw [writeKey, hall, hne]
  rfl

/-- Two entries under one key of a table are the same. -/
theorem eq_of_nodup_keys {β : Type} {l : List (String × β)} (h : (l.map Prod.fst).Nodup)
    {key : String} {a b : β} (ha : (key, a) ∈ l) (hb : (key, b) ∈ l) : a = b :=
  congrArg Prod.snd (List.inj_on_of_nodup_map h ha hb rfl)

theorem FieldLine.exists_value {key : String} {value : Datum} (h : FieldLine key value source) :
    ∃ source, Value source value := by
  cases h with
  | intro _ _ _ hvalue => exact ⟨_, hvalue⟩

/-- A key with its value on a line. -/
def Field.ofValue (key : String) {d : Datum} {source : List Char} (bare : IsBareKey key)
    (hvalue : Value source d) : Field where
  key := key
  datum := d
  source := key.toList ++ (' ' :: '=' :: ' ' :: (source ++ ['\n']))
  bare := bare
  line :=
    have hgap : Gap [' '] := fun _ hc => .inl (List.mem_singleton.mp hc)
    .intro (.gap Gap.nil) hgap hgap hvalue lineEnd_lineBreak

/-- Keys under a header, with blanks and comments in front of it. -/
def Block.ofFields (name : String) {front : List Char} (hfront : Filler front)
    (fields : List Field) (bare : IsBareKey name) (distinct : (fields.map Field.key).Nodup) :
    Block where
  name := name
  header := front ++ '[' :: (name.toList ++ [']', '\n'])
  fields := fields
  bare := bare
  opens := .intro hfront Gap.nil Gap.nil lineEnd_lineBreak
  distinct := distinct

/-- A key that stands in a block is written on a line. -/
theorem exists_writeField (f : Field) :
    ∃ text, writeField f.entry = some text ∧
      ∃ f' : Field, f'.entry = f.entry ∧ f'.source = text.toList := by
  obtain ⟨source, hvalue⟩ := f.line.exists_value
  obtain ⟨t, ht, hvalue⟩ := exists_writeValue hvalue
  refine ⟨f.key ++ " = " ++ t ++ "\n", ?_, .ofValue f.key f.bare hvalue, rfl, ?_⟩
  · simp [writeField, Field.entry, writeKey_of_bare f.bare, ht]
  · simp [Field.ofValue]

/-- Written keys are the keys of a block again, in the order in which they were written. -/
theorem exists_fields {entries : List (String × Datum)} {texts : List String}
    (h : List.Forall₂ (fun e text => ∃ f : Field, f.entry = e ∧ f.source = text.toList)
      entries texts) :
    ∃ fields : List Field, fields.map Field.entry = entries ∧
      fields.flatMap Field.source = (String.join texts).toList := by
  induction h with
  | nil => exact ⟨[], rfl, rfl⟩
  | @cons e text entries texts hfirst _ ih =>
    obtain ⟨f, rfl, hf⟩ := hfirst
    obtain ⟨fields, rfl, hsource⟩ := ih
    exact ⟨f :: fields, rfl, by simp [hf, hsource]⟩

/-- A text is a table, whatever blanks and comments stand in front of it. -/
def IsTable (e : String × Datum) (text : String) : Prop :=
  ∀ front, Filler front →
    ∃ b : Block, b.name = e.1 ∧ b.Says e.2 ∧ b.source = front ++ text.toList

/-- A table is written under a header. -/
theorem exists_writeTable {b : Block} {table : Datum} (h : b.Says table) :
    ∃ text, writeTable (b.name, table) = some text ∧ IsTable (b.name, table) text := by
  obtain ⟨entries, rfl, hperm⟩ := h
  obtain ⟨texts, hwritten, hlines⟩ := exists_mapM (f := writeField)
    (P := fun e text => ∃ f : Field, f.entry = e ∧ f.source = text.toList) fun e he => by
      obtain ⟨f, -, rfl⟩ := List.mem_map.mp (hperm.mem_iff.mp he)
      exact exists_writeField f
  obtain ⟨fields, rfl, hsource⟩ := exists_fields hlines
  have hkeys : ∀ fields : List Field,
      (fields.map Field.entry).map Prod.fst = fields.map Field.key := fun fields => List.map_map
  have hdistinct : (fields.map Field.key).Nodup := by
    rw [← hkeys, (hperm.map Prod.fst).nodup_iff, hkeys]
    exact b.distinct
  refine ⟨"[" ++ b.name ++ "]\n" ++ String.join texts, ?_, fun front hfront => ?_⟩
  · simp [writeTable, writeKey_of_bare b.bare, hwritten]
  · refine ⟨.ofFields b.name hfront fields b.bare hdistinct, rfl, ⟨_, rfl, .rfl⟩, ?_⟩
    simp [Block.source, Block.ofFields, hsource]

/-- The blocks have the names of the entries, and say what these say. -/
def Hold (blocks : List Block) (entries : List (String × Datum)) : Prop :=
  blocks.map Block.name = entries.map Prod.fst ∧
    ∀ b ∈ blocks, ∃ table, (b.name, table) ∈ entries ∧ b.Says table

theorem Hold.cons {e : String × Datum} {entries : List (String × Datum)} (hname : b.name = e.1)
    (hsaid : b.Says e.2) (h : Hold blocks entries) : Hold (b :: blocks) (e :: entries) := by
  refine ⟨by rw [List.map_cons, List.map_cons, hname, h.1], List.forall_mem_cons.mpr ⟨?_, ?_⟩⟩
  · exact ⟨e.2, by rw [hname]; exact List.mem_cons_self, hsaid⟩
  · intro b' hb'
    obtain ⟨table, hmem, htable⟩ := h.2 b' hb'
    exact ⟨table, List.mem_cons_of_mem e hmem, htable⟩

/-- Tables with empty lines between them are blocks. -/
theorem exists_blocks {e : String × Datum} {entries : List (String × Datum)} {text : String}
    {texts : List String} {front : List Char} (hfirst : IsTable e text)
    (hrest : List.Forall₂ IsTable entries texts) (hfront : Filler front) :
    ∃ blocks, Hold blocks (e :: entries) ∧
      blocks.flatMap Block.source = front ++ ("\n".intercalate (text :: texts)).toList := by
  induction hrest generalizing e text front with
  | nil =>
    obtain ⟨b, hname, hsaid, hb⟩ := hfirst front hfront
    exact ⟨[b], .cons hname hsaid ⟨rfl, List.forall_mem_nil _⟩, by simp [hb]⟩
  | cons hnext _ ih =>
    obtain ⟨b, hname, hsaid, hb⟩ := hfirst front hfront
    obtain ⟨blocks, hhold, hsource⟩ := ih hnext (.line lineEnd_lineBreak (.gap Gap.nil))
    exact ⟨b :: blocks, .cons hname hsaid hhold, by simp [hb, hsource]⟩

/-- So they are the text of a document. -/
theorem exists_document {entries : List (String × Datum)} {texts : List String}
    (h : List.Forall₂ IsTable entries texts) (hdistinct : (entries.map Prod.fst).Nodup) :
    ∃ doc : Document, doc.text = "\n".intercalate texts ∧ doc.Says (.record entries) := by
  obtain ⟨blocks, hhold, hsource⟩ : ∃ blocks, Hold blocks entries ∧
      blocks.flatMap Block.source = ("\n".intercalate texts).toList := by
    cases h with
    | nil => exact ⟨[], ⟨rfl, List.forall_mem_nil _⟩, rfl⟩
    | cons hfirst hrest => exact exists_blocks hfirst hrest (.gap Gap.nil)
  refine ⟨⟨blocks, [], .gap Gap.nil, by rw [hhold.1]; exact hdistinct⟩, ?_, entries, rfl, ?_, ?_⟩
  · rw [Document.text, List.append_nil, hsource, String.ofList_toList]
  · rw [hhold.1]
  · exact hhold.2

theorem Document.Says.distinct {doc : Document} {entries : List (String × Datum)}
    (h : doc.Says (.record entries)) : (entries.map Prod.fst).Nodup :=
  (Document.says_record.mp h).1.nodup_iff.mpr doc.distinct

/-- Under each name there is a block, and it says what stands there. -/
theorem Document.Says.exists_block {doc : Document} {entries : List (String × Datum)}
    (h : doc.Says (.record entries)) {table : Datum} (hmem : (name, table) ∈ entries) :
    ∃ b ∈ doc.blocks, b.name = name ∧ b.Says table := by
  obtain ⟨hnames, hsaid⟩ := Document.says_record.mp h
  obtain ⟨b, hb, rfl⟩ := List.mem_map.mp (hnames.mem_iff.mp (List.mem_map_of_mem hmem))
  obtain ⟨table', hmem', htable⟩ := hsaid b hb
  obtain rfl : table' = table := eq_of_nodup_keys h.distinct hmem' hmem
  exact ⟨b, hb, rfl, htable⟩

/-- **The writer of the program writes documents.** -/
theorem codec_writesDocuments : codec.WritesDocuments := by
  intro d hd
  obtain ⟨doc, hsaid⟩ := hd
  have ⟨entries, hrecord, _⟩ := hsaid
  subst hrecord
  obtain ⟨texts, hwritten, htables⟩ := exists_mapM (f := writeTable) (P := IsTable) fun e he => by
    obtain ⟨b, -, hname, htable⟩ := hsaid.exists_block he
    rw [show e = (b.name, e.2) from Prod.ext hname.symm rfl]
    exact exists_writeTable htable
  obtain ⟨doc', htext, hsaid'⟩ := exists_document htables hsaid.distinct
  refine ⟨doc', ?_, hsaid'⟩
  rw [htext]
  simp [codec, write, hwritten]

end ModemWatch.Toml
