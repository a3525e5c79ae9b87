import SapRfc.Analysis.TableNumbers

/-!
# Tables that come as XML

A document is cut into records anywhere.  The walker learns its name from the first record that
has a whole tag at its beginning: the document is read as it was written exactly when that is
the first record that is not empty, and is lost otherwise.
-/

set_option autoImplicit false

namespace SapRfc.Analysis.XmlTables

open SapRfc.Library SapRfc.Program PairGroups TableNumbers

variable {V : Type} {p : Platform V} {u : Unicode} {codec : Codec V} {dm : List (ℕ × PyStr)}
  {s : PairState}

/-! ## Replies with documents -/

/-- A part of a reply: a record, or a document in pieces. -/
inductive Part where
  | record (r : ℕ × Bytes)
  | document (pieces : List Bytes)

/-- Its records; a document stands between two markers. -/
def Part.records : Part → List (ℕ × Bytes)
  | .record r => [r]
  | .document pieces => (Tag.BASXML_MARKER, []) ::
      (pieces.map fun piece => (Tag.BASXML_DATA, piece)) ++ [(Tag.BASXML_MARKER, [])]

/-- The same part with its document in one piece. -/
def Part.joined : Part → Part
  | .record r => .record r
  | .document pieces => .document [pieces.flatten]

/-- The name that the walker takes, and the pieces it takes under it. -/
def opening : List Bytes → Option (PyStr × List Bytes)
  | [] => none
  | piece :: pieces =>
    match basxml_open_tag piece with
    | some name => some (name, piece :: pieces)
    | none => opening pieces

/-- `d[key] = d.get(key, b"") + value` -/
def extend (d : List (PyStr × Bytes)) (key : PyStr) (value : Bytes) : List (PyStr × Bytes) :=
  assocSet d key ((assocGet d key).getD [] ++ value)

/-- The documents behind one more. -/
def gathered (d : List (PyStr × Bytes)) (pieces : List Bytes) : List (PyStr × Bytes) :=
  match opening pieces with
  | none => d
  | some (name, taken) => extend d name taken.flatten

/-- The documents of a reply. -/
def documents (parts : List Part) : List (PyStr × Bytes) :=
  parts.foldl (fun d part => match part with
    | .record _ => d
    | .document pieces => gathered d pieces) []

/-- The records outside of its documents. -/
def plainRecords (parts : List Part) : List (ℕ × Bytes) :=
  parts.flatMap fun part => match part with
    | .record r => [r]
    | .document _ => []

/-! ## What the walker does with a document -/

/-- The walker at another place of a document. -/
def xmlAt (s : PairState) (current : Basxml) (chunks : List (PyStr × List Bytes)) : PairState :=
  { s with basxml_current := current, basxml_chunks := chunks }

/-- Documents make no difference to the other records. -/
theorem pair_record_xmlAt {current : Basxml} {chunks : List (PyStr × List Bytes)} {r : ℕ × Bytes}
    (hmarker : r.1 ≠ Tag.BASXML_MARKER) (hdata : r.1 ≠ Tag.BASXML_DATA) :
    pair_record codec dm (xmlAt s current chunks) r =
      (pair_record codec dm s r).map fun t => xmlAt t current chunks := by
  obtain ⟨tag, value⟩ := r
  obtain ⟨pairs, current_name, in_table, table_rows, table_lz, old, old_chunks, row_counts⟩ := s
  have hflushed : (xmlAt ⟨pairs, current_name, in_table, table_rows, table_lz, old, old_chunks,
      row_counts⟩ current chunks).flushed codec = PairState.flushed codec ⟨pairs, current_name,
        in_table, table_rows, table_lz, old, old_chunks, row_counts⟩ := rfl
  unfold pair_record
  rw [hflushed]
  unfold xmlAt
  simp only [hmarker, hdata, if_false, false_and]
  by_cases hparam : tag = Tag.PARAM_NAME
  · rw [if_pos hparam, if_pos hparam]
    cases in_table with
    | false => rfl
    | true =>
      cases current_name with
      | none => rfl
      | some name =>
        cases PairState.flushed codec _ <;> rfl
  rw [if_neg hparam, if_neg hparam]
  by_cases hscalar : tag = Tag.PARAM_VALUE ∧ current_name ≠ none ∧ in_table = false
  · rw [if_pos hscalar, if_pos hscalar]
    rfl
  rw [if_neg hscalar, if_neg hscalar]
  by_cases htable : tag = Tag.TABLE_NAME
  · rw [if_pos htable, if_pos htable]
    cases PairState.flushed codec _ <;> rfl
  rw [if_neg htable, if_neg htable]
  by_cases hinfo : tag = Tag.TABLE_INFO ∧ in_table = true
  · rw [if_pos hinfo, if_pos hinfo]
    cases current_name with
    | none => rfl
    | some name =>
      dsimp only
      split <;> rfl
  rw [if_neg hinfo, if_neg hinfo]
  by_cases hrows : (tag = Tag.TABLE_CONTENT ∨ tag = Tag.TABLE_CONTENT_ALT) ∧ in_table = true
  · rw [if_pos hrows, if_pos hrows]
    rfl
  rw [if_neg hrows, if_neg hrows]
  by_cases hpieces : tag = Tag.TABLE_CONTENT_LZ ∧ in_table = true
  · rw [if_pos hpieces, if_pos hpieces]
    rfl
  rw [if_neg hpieces, if_neg hpieces]
  by_cases hdelta : tag = Tag.TABLE_DELTA
  · rw [if_pos hdelta, if_pos hdelta]
    cases PairState.flushed codec _ <;> rfl
  rw [if_neg hdelta, if_neg hdelta]
  by_cases hends : (tag = Tag.TABLE_END ∨ tag = Tag.TABLE_DELTA_END) ∧ in_table = true ∧
    current_name ≠ none
  · rw [if_pos hends, if_pos hends]
    cases PairState.flushed codec _ <;> rfl
  rw [if_neg hends, if_neg hends]
  rfl

/-- The pieces behind one more document. -/
def pushed (chunks : List (PyStr × List Bytes)) (pieces : List Bytes) :
    List (PyStr × List Bytes) :=
  match opening pieces with
  | none => chunks
  | some (name, taken) => taken.foldl (fun chunks piece => assocPush chunks name piece) chunks

/-- INTERNAL: the pieces behind the one that has the name. -/
theorem foldlM_named (name : PyStr) (pieces : List Bytes) (chunks : List (PyStr × List Bytes)) :
    (pieces.map fun piece => (Tag.BASXML_DATA, piece)).foldlM (pair_record codec dm)
        (xmlAt s (.named name) chunks) =
      .ok (xmlAt s (.named name)
        (pieces.foldl (fun chunks piece => assocPush chunks name piece) chunks)) := by
  induction pieces generalizing chunks with
  | nil => rfl
  | cons piece pieces ih =>
    have hstep : pair_record codec dm (xmlAt s (.named name) chunks) (Tag.BASXML_DATA, piece) =
        .ok (xmlAt s (.named name) (assocPush chunks name piece)) := by
      unfold pair_record
      rfl
    rw [List.map_cons, List.foldlM_cons, hstep, Eff.except_ok_bind, ih, List.foldl_cons]

/-- INTERNAL: one piece before the walker has a name. -/
theorem pair_record_pending (piece : Bytes) (chunks : List (PyStr × List Bytes)) :
    pair_record codec dm (xmlAt s .pending chunks) (Tag.BASXML_DATA, piece) =
      .ok ((basxml_open_tag piece).elim (xmlAt s .pending chunks) fun name =>
        xmlAt s (.named name) (assocPush chunks name piece)) := by
  unfold pair_record
  dsimp only
  cases basxml_open_tag piece <;> rfl

/-- INTERNAL: all pieces of a document. -/
theorem foldlM_pending (pieces : List Bytes) (chunks : List (PyStr × List Bytes)) :
    ∃ current, current ≠ .outside ∧
      (pieces.map fun piece => (Tag.BASXML_DATA, piece)).foldlM (pair_record codec dm)
        (xmlAt s .pending chunks) = .ok (xmlAt s current (pushed chunks pieces)) := by
  induction pieces with
  | nil => exact ⟨.pending, by decide, rfl⟩
  | cons piece pieces ih =>
    rw [List.map_cons, List.foldlM_cons, pair_record_pending, Eff.except_ok_bind]
    unfold pushed opening
    cases basxml_open_tag piece with
    | none => exact ih
    | some name =>
      refine ⟨.named name, fun houtside => (by cases houtside), ?_⟩
      exact foldlM_named name pieces (assocPush chunks name piece)

/-- A document. -/
theorem foldlM_document (pieces : List Bytes) (chunks : List (PyStr × List Bytes)) :
    (Part.document pieces).records.foldlM (pair_record codec dm) (xmlAt s .outside chunks) =
      .ok (xmlAt s .outside (pushed chunks pieces)) := by
  obtain ⟨current, hcurrent, hpieces⟩ : ∃ current, current ≠ .outside ∧
      (pieces.map fun piece => (Tag.BASXML_DATA, piece)).foldlM (pair_record codec dm)
        (xmlAt s .pending chunks) = .ok (xmlAt s current (pushed chunks pieces)) :=
    foldlM_pending pieces chunks
  have hbegin : pair_record codec dm (xmlAt s .outside chunks) (Tag.BASXML_MARKER, []) =
      .ok (xmlAt s .pending chunks) := by
    unfold pair_record
    rfl
  have hend : pair_record codec dm (xmlAt s current (pushed chunks pieces))
      (Tag.BASXML_MARKER, []) =
      .ok (xmlAt s .outside (pushed chunks pieces)) := by
    cases current with
    | outside => exact absurd rfl hcurrent
    | pending => rfl
    | named name => rfl
  show List.foldlM _ _ ((Tag.BASXML_MARKER, []) ::
    ((pieces.map fun piece => (Tag.BASXML_DATA, piece)) ++ [(Tag.BASXML_MARKER, [])])) = _
  rw [List.foldlM_cons, hbegin, Eff.except_ok_bind, List.foldlM_append, hpieces,
    Eff.except_ok_bind, List.foldlM_cons, hend]
  rfl

/-- INTERNAL: one piece more of a document. -/
theorem extend_extend (d : List (PyStr × Bytes)) (key : PyStr) (a b : Bytes) :
    extend (extend d key a) key b = extend d key (a ++ b) := by
  unfold extend
  rw [Dicts.assocSet_assocSet, Dicts.assocGet_assocSet, if_pos rfl, Option.getD_some,
    List.append_assoc]

/-- The pieces of a document are read as it. -/
theorem flatten_pushed (chunks : List (PyStr × List Bytes)) (pieces : List Bytes) :
    (pushed chunks pieces).map (fun e => (e.1, e.2.flatten)) =
      gathered (chunks.map fun e => (e.1, e.2.flatten)) pieces := by
  have hpush : ∀ (chunks : List (PyStr × List Bytes)) (name : PyStr) (piece : Bytes),
      (assocPush chunks name piece).map (fun e => (e.1, e.2.flatten)) =
        extend (chunks.map fun e => (e.1, e.2.flatten)) name piece := by
    intro chunks name piece
    unfold assocPush extend
    rw [Dicts.assocSet_map List.flatten, Dicts.assocGet_map List.flatten, List.flatten_append,
      List.flatten_singleton]
    cases assocGet chunks name <;> rfl
  have htaken : ∀ (name : PyStr) (taken : List Bytes) (chunks : List (PyStr × List Bytes)),
      taken ≠ [] → (taken.foldl (fun chunks piece => assocPush chunks name piece) chunks).map
        (fun e => (e.1, e.2.flatten)) =
          extend (chunks.map fun e => (e.1, e.2.flatten)) name taken.flatten := by
    intro name taken
    induction taken with
    | nil => exact fun _ h => absurd rfl h
    | cons piece taken ih =>
      intro chunks _
      rw [List.foldl_cons, List.flatten_cons]
      cases taken with
      | nil => rw [List.foldl_nil, hpush, List.flatten_nil, List.append_nil]
      | cons next taken => rw [ih _ (List.cons_ne_nil _ _), hpush, extend_extend]
  have hne : ∀ {name : PyStr} {taken : List Bytes}, opening pieces = some (name, taken) →
      taken ≠ [] := by
    intro name taken
    induction pieces with
    | nil => nofun
    | cons piece pieces ih =>
      unfold opening
      split
      · intro h
        rw [← (Prod.mk.inj (Option.some.inj h)).2]
        exact List.cons_ne_nil _ _
      · exact ih
  unfold pushed gathered
  cases hopening : opening pieces with
  | none => rfl
  | some found => exact htaken found.1 found.2 chunks (hne hopening)

/-- All parts of a reply: the records outside of its documents, and the documents. -/
theorem foldlM_parts {parts : List Part}
    (hplain : ∀ r, Part.record r ∈ parts → r.1 ≠ Tag.BASXML_MARKER ∧ r.1 ≠ Tag.BASXML_DATA)
    (chunks : List (PyStr × List Bytes)) :
    (parts.flatMap Part.records).foldlM (pair_record codec dm) (xmlAt s .outside chunks) =
      ((plainRecords parts).foldlM (pair_record codec dm) s).map fun t =>
        xmlAt t .outside (parts.foldl (fun chunks part => match part with
          | .record _ => chunks
          | .document pieces => pushed chunks pieces) chunks) := by
  induction parts generalizing s chunks with
  | nil => rfl
  | cons part parts ih =>
    have hrest := fun (s : PairState) chunks => ih (s := s)
      (fun r hr => hplain r (List.mem_cons_of_mem _ hr)) chunks
    rw [List.flatMap_cons, List.foldlM_append]
    unfold plainRecords at hrest ⊢
    rw [List.flatMap_cons, List.foldl_cons]
    cases part with
    | record r =>
      obtain ⟨hmarker, hdata⟩ := hplain r List.mem_cons_self
      unfold Part.records
      rw [List.foldlM_cons, pair_record_xmlAt hmarker hdata, List.singleton_append,
        List.foldlM_cons]
      cases pair_record codec dm s r with
      | error e => rfl
      | ok t => exact hrest t chunks
    | document pieces =>
      rw [foldlM_document, Eff.except_ok_bind, hrest]
      rfl

/-- What is reported of a reply with documents. -/
theorem extract_named_values_parts {parts : List Part}
    (hfits : ∀ r ∈ parts.flatMap Part.records, Records.Fits Tag.TERMINATOR r)
    (hplain : ∀ r, Part.record r ∈ parts → r.1 ≠ Tag.BASXML_MARKER ∧ r.1 ≠ Tag.BASXML_DATA) :
    extract_named_values codec (Records.stream Tag.TERMINATOR (parts.flatMap Part.records)) dm =
      ((plainRecords parts).foldlM (pair_record codec dm) PairState.init >>= reported codec).map
        fun named => { named with basxml := documents parts } := by
  have hdocuments : ∀ (parts : List Part) (chunks : List (PyStr × List Bytes)),
      (parts.foldl (fun chunks part => match part with
        | .record _ => chunks
        | .document pieces => pushed chunks pieces) chunks).map (fun e => (e.1, e.2.flatten)) =
      parts.foldl (fun d part => match part with
        | .record _ => d
        | .document pieces => gathered d pieces) (chunks.map fun e => (e.1, e.2.flatten)) := by
    intro parts
    induction parts with
    | nil => exact fun _ => rfl
    | cons part parts ih =>
      intro chunks
      rw [List.foldl_cons, List.foldl_cons, ih]
      cases part with
      | record r => rfl
      | document pieces => exact congrArg (fun d => parts.foldl _ d) (flatten_pushed chunks pieces)
  rw [extract_named_values_stream hfits]
  have hrun : (parts.flatMap Part.records).foldlM (pair_record codec dm)
      (xmlAt PairState.init .outside []) = _ := foldlM_parts hplain []
  rw [show xmlAt PairState.init .outside [] = PairState.init from rfl] at hrun
  rw [hrun]
  cases (plainRecords parts).foldlM (pair_record codec dm) PairState.init with
  | error e => rfl
  | ok t =>
    show reported codec (xmlAt t .outside _) = (reported codec t).map _
    unfold reported
    rw [show ∀ chunks, (xmlAt t .outside chunks).flushed codec = t.flushed codec from fun _ => rfl]
    cases t.flushed codec with
    | error e => rfl
    | ok pairs =>
      exact congrArg (fun d => (Except.ok ⟨pairs, d, t.row_counts⟩ : Except PyError NamedValues))
        (hdocuments parts [])

/-! ## Opening tags -/

/-- The documents of a reply, in their pieces. -/
def docs (parts : List Part) : List (List Bytes) :=
  parts.filterMap fun part => match part with
    | .record _ => none
    | .document pieces => some pieces

/-- The table that a document is of. -/
def docName (pieces : List Bytes) : PyStr := (basxml_open_tag pieces.flatten).getD []

/-- The first piece that is not empty has the whole opening tag. -/
def TagWhole (pieces : List Bytes) : Prop :=
  ∃ piece, pieces.find? (· ≠ []) = some piece ∧ 0x3E ∈ piece

/-- The tags inside of a document, behind its first byte. -/
def innerTags (doc : Bytes) : List PyStr := doc.tail.tails.filterMap basxml_open_tag

/-- INTERNAL: the end of a tag is a byte of its own. -/
theorem mem_decodeAsciiReplace {chunk : Bytes} : 62 ∈ decodeAsciiReplace chunk ↔ 0x3E ∈ chunk := by
  unfold decodeAsciiReplace
  rw [List.mem_map]
  constructor
  · rintro ⟨x, hx, hchar⟩
    split at hchar
    · obtain rfl : x = 0x3E := UInt8.toNat_inj.mp hchar
      exact hx
    · cases hchar
  · exact fun h => ⟨0x3E, h, rfl⟩

/-- INTERNAL: a tag has an end. -/
theorem mem_of_open_tag {chunk : Bytes} {name : PyStr} (h : basxml_open_tag chunk = some name) :
    0x3E ∈ chunk := by
  rw [← mem_decodeAsciiReplace]
  unfold basxml_open_tag at h
  split at h
  next => cases h
  next c text heq =>
    split at h
    · cases h
    split at h
    · cases h
    next hmem =>
      rw [heq]
      exact List.mem_cons_of_mem _ (not_not.mp hmem)

/-- A tag that is whole is read without what follows it. -/
theorem open_tag_append {chunk : Bytes} (h : 0x3E ∈ chunk) (rest : Bytes) :
    basxml_open_tag (chunk ++ rest) = basxml_open_tag chunk := by
  rw [← mem_decodeAsciiReplace] at h
  have happend : decodeAsciiReplace (chunk ++ rest) =
      decodeAsciiReplace chunk ++ decodeAsciiReplace rest := List.map_append
  unfold basxml_open_tag
  rw [happend]
  cases htext : decodeAsciiReplace chunk with
  | nil =>
    rw [htext] at h
    cases h
  | cons c text =>
    rw [htext] at h
    rw [List.cons_append]
    dsimp only
    by_cases hopen : c = 60
    · have hmem : 62 ∈ text := by
        rcases List.mem_cons.mp h with hc | hmem
        · rw [hopen] at hc
          cases hc
        · exact hmem
      have htake : (text ++ decodeAsciiReplace rest).takeWhile (· ≠ 62) =
          text.takeWhile (· ≠ 62) := by
        rw [List.takeWhile_append, if_neg]
        intro hlength
        have hall := (List.takeWhile_prefix (l := text) (fun c => decide (c ≠ 62))).eq_of_length
            hlength
        rw [← hall] at hmem
        exact absurd (List.all_eq_true.mp List.all_takeWhile 62 hmem) (by decide)
      rw [if_neg (not_not.mpr hopen), if_neg (not_not.mpr hopen),
        if_neg (not_not.mpr (List.mem_append_left _ hmem)), if_neg (not_not.mpr hmem), htake]
    · rw [if_pos hopen, if_pos hopen]

/-- The name that the walker takes stands in the document, in front of what it takes. -/
theorem opening_spec {pieces taken : List Bytes} {name : PyStr}
    (h : opening pieces = some (name, taken)) :
    ∃ dropped, pieces.flatten = dropped ++ taken.flatten ∧
      basxml_open_tag taken.flatten = some name := by
  induction pieces with
  | nil => cases h
  | cons piece pieces ih =>
    unfold opening at h
    split at h
    next found hfound =>
      obtain ⟨rfl, rfl⟩ := Prod.mk.inj (Option.some.inj h)
      refine ⟨[], rfl, ?_⟩
      rw [List.flatten_cons, open_tag_append (mem_of_open_tag hfound)]
      exact hfound
    next =>
      obtain ⟨dropped, hflat, htag⟩ := ih h
      exact ⟨piece ++ dropped, by rw [List.flatten_cons, hflat, List.append_assoc], htag⟩

/-- A document whose tag is whole is taken as it is. -/
theorem opening_of_whole {pieces : List Bytes} {name : PyStr}
    (hname : basxml_open_tag pieces.flatten = some name) (hwhole : TagWhole pieces) :
    ∃ taken, opening pieces = some (name, taken) ∧ taken.flatten = pieces.flatten := by
  induction pieces with
  | nil =>
    obtain ⟨piece, hfind, -⟩ := hwhole
    cases hfind
  | cons piece pieces ih =>
    obtain ⟨first, hfind, hmem⟩ := hwhole
    by_cases hempty : piece = []
    · subst hempty
      exact ih hname ⟨first, hfind, hmem⟩
    · obtain rfl : piece = first := by
        have hfirst : (piece :: pieces).find? (fun x => decide (x ≠ [])) = some piece :=
          List.find?_cons_of_pos (by simpa using hempty)
        exact Option.some.inj (hfirst.symm.trans hfind)
      rw [List.flatten_cons, open_tag_append hmem] at hname
      refine ⟨piece :: pieces, ?_, rfl⟩
      unfold opening
      rw [hname]

/-- A document whose tag is cut is taken under a name from inside of it, if at all. -/
theorem opening_of_cut {pieces taken : List Bytes} {name : PyStr} (hcut : ¬ TagWhole pieces)
    (h : opening pieces = some (name, taken)) : name ∈ innerTags pieces.flatten := by
  have hdropped : ∃ dropped, dropped ≠ [] ∧ pieces.flatten = dropped ++ taken.flatten ∧
      basxml_open_tag taken.flatten = some name := by
    induction pieces with
    | nil => cases h
    | cons piece pieces ih =>
      by_cases hempty : piece = []
      · subst hempty
        exact ih (fun hwhole => hcut hwhole) h
      · have hno : 0x3E ∉ piece := fun hmem =>
          hcut ⟨piece, List.find?_cons_of_pos (by simpa using hempty), hmem⟩
        have hnone : basxml_open_tag piece = none := by
          by_contra hsome
          obtain ⟨found, hfound⟩ := Option.ne_none_iff_exists'.mp hsome
          exact hno (mem_of_open_tag hfound)
        unfold opening at h
        rw [hnone] at h
        obtain ⟨dropped, hflat, htag⟩ := opening_spec h
        refine ⟨piece ++ dropped, fun hnil => hempty (List.append_eq_nil_iff.mp hnil).1, ?_, htag⟩
        rw [List.flatten_cons, hflat, List.append_assoc]
  obtain ⟨dropped, hne, hflat, htag⟩ := hdropped
  obtain ⟨x, dropped, rfl⟩ := List.exists_cons_of_ne_nil hne
  refine List.mem_filterMap.mpr ⟨taken.flatten, ?_, htag⟩
  rw [List.mem_tails, hflat]
  exact List.suffix_append dropped _

/-! ## Cutting -/

section Cutting

variable {parts : List Part}

/-- Documents are kept under the names that the walker takes. -/
theorem mem_documents {e : PyStr × Bytes} (h : e ∈ documents parts) :
    ∃ pieces ∈ docs parts, ∃ taken, opening pieces = some (e.1, taken) := by
  have hall : ∀ (parts : List Part) (d : List (PyStr × Bytes)),
      e ∈ parts.foldl (fun d part => match part with
        | .record _ => d
        | .document pieces => gathered d pieces) d →
      (∃ pieces ∈ docs parts, ∃ taken, opening pieces = some (e.1, taken)) ∨
        ∃ e' ∈ d, e'.1 = e.1 := by
    intro parts
    induction parts with
    | nil => exact fun d hd => .inr ⟨e, hd, rfl⟩
    | cons part parts ih =>
      intro d hd
      rw [List.foldl_cons] at hd
      rcases ih _ hd with ⟨pieces, hpieces, hopening⟩ | ⟨e', he', hkey⟩
      · refine .inl ⟨pieces, ?_, hopening⟩
        obtain ⟨part', hpart', hsome⟩ := List.mem_filterMap.mp hpieces
        exact List.mem_filterMap.mpr ⟨part', List.mem_cons_of_mem _ hpart', hsome⟩
      · cases part with
        | record r => exact .inr ⟨e', he', hkey⟩
        | document pieces =>
          have hgathered : e' ∈ gathered d pieces := he'
          unfold gathered at hgathered
          split at hgathered
          next => exact .inr ⟨e', hgathered, hkey⟩
          next name taken hopening =>
            rcases Dicts.mem_assocSet hgathered with rfl | hold
            · refine .inl ⟨pieces, ?_, taken, hkey ▸ hopening⟩
              exact List.mem_filterMap.mpr ⟨_, List.mem_cons_self, rfl⟩
            · exact .inr ⟨e', hold, hkey⟩
  rcases hall parts [] h with hfound | ⟨e', he', -⟩
  · exact hfound
  · cases he'

/-- A document that is taken is kept. -/
theorem documents_of_opening {pieces taken : List Bytes} {name : PyStr} (hmem : pieces ∈ docs parts)
    (hopening : opening pieces = some (name, taken)) : assocGet (documents parts) name ≠ none := by
  have hkept : ∀ (parts : List Part) (d : List (PyStr × Bytes)),
      assocGet d name ≠ none ∨ pieces ∈ docs parts →
      assocGet (parts.foldl (fun d part => match part with
        | .record _ => d
        | .document pieces => gathered d pieces) d) name ≠ none := by
    intro parts
    induction parts with
    | nil => exact fun d hd => hd.resolve_right List.not_mem_nil
    | cons part parts ih =>
      intro d hd
      rw [List.foldl_cons]
      apply ih
      cases part with
      | record r => exact hd
      | document pieces' =>
        rcases hd with hd | hd
        · left
          show assocGet (gathered d pieces') name ≠ none
          unfold gathered
          split
          · exact hd
          · unfold extend
            rw [Dicts.assocGet_assocSet]
            split
            · exact Option.some_ne_none _
            · exact hd
        · rcases List.mem_cons.mp (show pieces ∈ pieces' :: docs parts from hd) with rfl | hlater
          · left
            show assocGet (gathered d pieces) name ≠ none
            unfold gathered extend
            rw [hopening]
            dsimp only
            rw [Dicts.assocGet_assocSet, if_pos rfl]
            exact Option.some_ne_none _
          · exact .inr hlater
  exact hkept parts [] (.inr hmem)

/-- A document that is joined has its tag. -/
theorem documents_joined (hopen : ∀ pieces ∈ docs parts, basxml_open_tag pieces.flatten ≠ none)
    (hwhole : ∀ pieces ∈ docs parts, TagWhole pieces) :
    documents (parts.map Part.joined) = documents parts := by
  have hall : ∀ (parts : List Part) (d : List (PyStr × Bytes)),
      (∀ pieces ∈ docs parts, basxml_open_tag pieces.flatten ≠ none ∧ TagWhole pieces) →
      (parts.map Part.joined).foldl (fun d part => match part with
        | .record _ => d
        | .document pieces => gathered d pieces) d =
      parts.foldl (fun d part => match part with
        | .record _ => d
        | .document pieces => gathered d pieces) d := by
    intro parts
    induction parts with
    | nil => exact fun _ _ => rfl
    | cons part parts ih =>
      intro d hparts
      rw [List.map_cons, List.foldl_cons, List.foldl_cons]
      cases part with
      | record r => exact ih d hparts
      | document pieces =>
        obtain ⟨hsome, hpiece⟩ := hparts pieces List.mem_cons_self
        obtain ⟨name, hname⟩ := Option.ne_none_iff_exists'.mp hsome
        obtain ⟨taken, hopening, hflat⟩ := opening_of_whole hname hpiece
        have hsame : gathered d [pieces.flatten] = gathered d pieces := by
          unfold gathered
          rw [hopening]
          unfold opening
          rw [hname]
          dsimp only
          rw [hflat, List.flatten_singleton]
        show List.foldl _ (gathered d [pieces.flatten]) _ = List.foldl _ (gathered d pieces) _
        rw [hsame]
        exact ih _ fun q hq => hparts q (List.mem_cons_of_mem _ hq)
  exact hall parts [] fun pieces hp => ⟨hopen pieces hp, hwhole pieces hp⟩

end Cutting

/-! ## Fragmentation -/

variable (u dm) in
/-- The documents of a reply are of distinct tables, which nothing else in the reply names: no
scalar, no table of another form, and no element of a document. -/
structure Separate (parts : List Part) : Prop where
  distinct : ((docs parts).map fun pieces => u.upper (docName pieces)).Nodup
  elements : ∀ pieces ∈ docs parts, ∀ table ∈ docs parts, ∀ tag ∈ innerTags pieces.flatten,
    u.upper tag ≠ u.upper (docName table)
  elsewhere : ∀ table ∈ docs parts, ∀ r ∈ plainRecords parts, Elsewhere u dm (docName table) r

section Fragmentation

variable {parts : List Part} {desc : FunctionDesc}

/-- INTERNAL: the last of two streams that has a tag decides. -/
theorem get_append (a b : List (ℕ × Bytes)) (tag : ℕ) :
    Tags.get (a ++ b) tag = (Tags.get b tag).or (Tags.get a tag) := by
  unfold Tags.get
  rw [List.reverse_append, List.find?_append]
  cases b.reverse.find? fun r => decide (r.1 = tag) <;> rfl

/-- INTERNAL: documents have nothing to do with whether a reply is accepted. -/
theorem get_parts {tag : ℕ} (hmarker : tag ≠ Tag.BASXML_MARKER) (hdata : tag ≠ Tag.BASXML_DATA)
    (parts : List Part) :
    Tags.get (parts.flatMap Part.records) tag = Tags.get (plainRecords parts) tag := by
  induction parts with
  | nil => rfl
  | cons part parts ih =>
    unfold plainRecords at ih ⊢
    rw [List.flatMap_cons, List.flatMap_cons, get_append, get_append, ih]
    cases part with
    | record r => rfl
    | document pieces =>
      have hnone : Tags.get (Part.document pieces).records tag = none := by
        unfold Tags.get
        rw [Option.map_eq_none_iff, List.find?_eq_none]
        intro r hr
        rw [decide_eq_true_eq]
        rcases List.mem_append.mp (List.mem_reverse.mp hr) with hr | hr
        · rcases List.mem_cons.mp hr with rfl | hr
          · exact Ne.symm hmarker
          · obtain ⟨piece, -, rfl⟩ := List.mem_map.mp hr
            exact Ne.symm hdata
        · obtain rfl := List.mem_singleton.mp hr
          exact Ne.symm hmarker
      rw [hnone]
      rfl

/-- INTERNAL: the records outside of documents are the same. -/
theorem plainRecords_joined (parts : List Part) :
    plainRecords (parts.map Part.joined) = plainRecords parts := by
  unfold plainRecords
  rw [List.flatMap_map]
  refine List.flatMap_congr fun part _ => ?_
  cases part <;> rfl

/-- A reply reports the same however its documents are cut. -/
theorem sameReport_joined (parts : List Part) :
    Replies.SameReport u ((parts.map Part.joined).flatMap Part.records)
      (parts.flatMap Part.records) := by
  constructor
  · cases parts with
    | nil => exact Iff.rfl
    | cons part parts =>
      cases part with
      | record r =>
        rw [Replies.parse_gateway_error_eq_none, Replies.parse_gateway_error_eq_none]
        show (Records.stream Tag.TERMINATOR (r :: _)).take 5 ≠ _ ↔
          (Records.stream Tag.TERMINATOR (r :: _)).take 5 ≠ _
        rw [Replies.take_stream_cons, Replies.take_stream_cons]
      | document pieces =>
        have hnone : ∀ rest, parse_gateway_error u
            (Records.stream Tag.TERMINATOR ((Tag.BASXML_MARKER, []) :: rest)) = none :=
          fun rest => Replies.no_gateway_of_tag (show Tag.BASXML_MARKER < 256 ^ 2 by decide)
            (show Tag.BASXML_MARKER ≠ 0x2A45 by decide)
        exact ⟨fun _ => hnone _, fun _ => hnone _⟩
  · intro tag htag
    obtain ⟨hmarker, hdata⟩ := (show ∀ tag ∈ Replies.verdictTags,
      tag ≠ Tag.BASXML_MARKER ∧ tag ≠ Tag.BASXML_DATA by decide) tag htag
    rw [get_parts hmarker hdata, get_parts hmarker hdata, plainRecords_joined]

/-- INTERNAL: and so are the documents, each in one piece. -/
theorem docs_joined (parts : List Part) :
    docs (parts.map Part.joined) = (docs parts).map fun pieces => [pieces.flatten] := by
  induction parts with
  | nil => rfl
  | cons part parts ih =>
    cases part with
    | record r => exact ih
    | document pieces => exact congrArg ([pieces.flatten] :: ·) ih

/-- A reply in which each document has a name, in the pieces and in one. -/
structure XmlReply (parts : List Part) : Prop where
  fits : ∀ r ∈ parts.flatMap Part.records, Records.Fits Tag.TERMINATOR r
  fits_joined : ∀ r ∈ (parts.map Part.joined).flatMap Part.records,
    Records.Fits Tag.TERMINATOR r
  plain : ∀ r, Part.record r ∈ parts → r.1 ≠ Tag.BASXML_MARKER ∧ r.1 ≠ Tag.BASXML_DATA
  opens : ∀ pieces ∈ docs parts, basxml_open_tag pieces.flatten ≠ none

/-- What the caller gets of a reply. -/
def returned (p : Platform V) (desc : FunctionDesc) (dm : List (ℕ × PyStr)) (parts : List Part) :
    Except PyError (Values V) :=
  parse_invoke_response p (Records.stream Tag.TERMINATOR (parts.flatMap Part.records)) desc dm

/-- INTERNAL: what is left of a reply that is returned. -/
theorem returned_eq_ok (hfits : ∀ r ∈ parts.flatMap Part.records, Records.Fits Tag.TERMINATOR r)
    (hplain : ∀ r, Part.record r ∈ parts → r.1 ≠ Tag.BASXML_MARKER ∧ r.1 ≠ Tag.BASXML_DATA)
    {result : Values V} (h : returned p desc dm parts = .ok result) :
    ∃ named, ((plainRecords parts).foldlM (pair_record p.codec dm) PairState.init >>=
        reported p.codec) = .ok named ∧ ∃ mid,
      named.pairs.foldlM (Dicts.assign p.u (Replies.outputs desc)
        (Replies.readPair p named.row_counts)) [] = .ok mid ∧
      (documents parts).foldlM (Dicts.assign p.u (Replies.outputs desc) (Replies.readXml p)) mid =
        .ok result := by
  have hdecode := Replies.decode_of_parse hfits h
  rw [Replies.decode_result_eq, extract_named_values_parts hfits hplain] at hdecode
  cases hreported : ((plainRecords parts).foldlM (pair_record p.codec dm) PairState.init >>=
      reported p.codec) with
  | error e =>
    rw [hreported] at hdecode
    cases hdecode
  | ok found =>
    rw [hreported] at hdecode
    obtain ⟨named, hnamed, hrest⟩ := Eff.except_bind_eq_ok.mp hdecode
    obtain rfl := Except.ok.inj hnamed
    obtain ⟨mid, hpairs, hdocs⟩ := Eff.except_bind_eq_ok.mp hrest
    exact ⟨found, rfl, mid, hpairs, hdocs⟩

/-- INTERNAL: joining adds no records. -/
theorem plain_joined (h : XmlReply parts) (r : ℕ × Bytes)
    (hr : Part.record r ∈ parts.map Part.joined) :
    r.1 ≠ Tag.BASXML_MARKER ∧ r.1 ≠ Tag.BASXML_DATA := by
  obtain ⟨part, hpart, heq⟩ := List.mem_map.mp hr
  cases part with
  | record r' =>
    obtain rfl : r' = r := Part.record.inj heq
    exact h.plain _ hpart
  | document pieces => cases heq

/-- Documents with whole tags are read however they are cut. -/
theorem returned_joined (h : XmlReply parts) (hwhole : ∀ pieces ∈ docs parts, TagWhole pieces) :
    Replies.Alike p.u ((parts.map Part.joined).flatMap Part.records)
      (returned p desc dm (parts.map Part.joined)) (returned p desc dm parts) := by
  refine (sameReport_joined parts).parse_alike h.fits_joined h.fits ?_
  rw [extract_named_values_parts h.fits h.plain,
    extract_named_values_parts h.fits_joined (plain_joined h), plainRecords_joined,
    documents_joined h.opens hwhole]

/-- A document whose tag is cut is lost. -/
theorem lost_of_cut (h : XmlReply parts) (hseparate : Separate p.u dm parts) {pieces : List Bytes}
    (hpieces : pieces ∈ docs parts) (hcut : ¬ TagWhole pieces) {field : FieldDesc}
    (hfield : p.u.upper field.name = p.u.upper (docName pieces)) {result : Values V}
    (hresult : returned p desc dm parts = .ok result) : assocGet result field.name = none := by
  obtain ⟨named, hnamed, mid, hpairs, hdocs⟩ := returned_eq_ok h.fits h.plain hresult
  obtain ⟨last, hlast, hreported⟩ := Eff.except_bind_eq_ok.mp hnamed
  have hinit : Apart p.u (docName pieces) [] none PairState.init :=
    ⟨nofun, rfl, rfl, nofun, nofun⟩
  have hapart := hinit.run (hseparate.elsewhere pieces hpieces) hlast
  obtain ⟨hnone, -, -⟩ := hapart.reported hreported
  have hdocs_none : ∀ e ∈ documents parts, p.u.upper e.1 ≠ p.u.upper field.name := by
    intro e he hupper
    rw [hfield] at hupper
    obtain ⟨other, hother, taken, hopening⟩ := mem_documents he
    by_cases hwhole : TagWhole other
    · obtain ⟨name, hname⟩ := Option.ne_none_iff_exists'.mp (h.opens other hother)
      obtain ⟨taken', hopening', -⟩ := opening_of_whole hname hwhole
      obtain ⟨rfl, -⟩ := Prod.mk.inj (Option.some.inj (hopening'.symm.trans hopening))
      have hdoc : docName other = e.1 := by
        unfold docName
        rw [hname, Option.getD_some]
      rw [← hdoc] at hupper
      obtain rfl : other = pieces :=
        List.inj_on_of_nodup_map hseparate.distinct hother hpieces hupper
      exact hcut hwhole
    · exact hseparate.elements other hother pieces hpieces e.1
        (opening_of_cut hwhole hopening) hupper
  rw [List.filter_eq_nil_iff] at hnone
  have hpairs_none : ∀ e ∈ named.pairs, p.u.upper e.1 ≠ p.u.upper field.name := by
    intro e he hupper
    exact hnone e he (decide_eq_true (hupper.trans hfield))
  rw [Dicts.foldlM_elsewhere hdocs_none hdocs, Dicts.foldlM_elsewhere hpairs_none hpairs]
  rfl

/-- INTERNAL: a document in one piece is returned. -/
theorem found_joined (h : XmlReply parts) {pieces : List Bytes} (hpieces : pieces ∈ docs parts)
    {field : FieldDesc} (hfield : field_of p.u (Replies.outputs desc) (docName pieces) = some field)
    {result : Values V} (hresult : returned p desc dm (parts.map Part.joined) = .ok result) :
    assocGet result field.name ≠ none := by
  obtain ⟨named, -, mid, -, hdocs⟩ := returned_eq_ok h.fits_joined (plain_joined h) hresult
  obtain ⟨name, hname⟩ := Option.ne_none_iff_exists'.mp (h.opens pieces hpieces)
  have hopening : opening [pieces.flatten] = some (name, [pieces.flatten]) := by
    unfold opening
    rw [hname]
  have hmem : [pieces.flatten] ∈ docs (parts.map Part.joined) := by
    rw [docs_joined]
    exact List.mem_map_of_mem hpieces
  obtain ⟨payload, hpayload⟩ :=
    Option.ne_none_iff_exists'.mp (documents_of_opening hmem hopening)
  unfold assocGet at hpayload
  obtain ⟨e, hfind, -⟩ := Option.map_eq_some_iff.mp hpayload
  have hkey : e.1 = name := of_decide_eq_true
    (List.find?_some (p := fun e : PyStr × Bytes => decide (e.1 = name)) hfind)
  have hdoc : docName pieces = name := by
    unfold docName
    rw [hname, Option.getD_some]
  refine Dicts.foldlM_sets (.inr ⟨e, List.mem_of_find?_eq_some hfind, ?_⟩) hdocs
  rw [hkey, ← hdoc]
  exact hfield

/-- XML table fragmentation.  With whole tags every cut gives the same; and where the documents
are separate and the uncut reply is returned, no other cut does. -/
theorem fragments_joined_iff (h : XmlReply parts) :
    ((∀ pieces ∈ docs parts, TagWhole pieces) →
      Replies.Alike p.u ((parts.map Part.joined).flatMap Part.records)
        (returned p desc dm (parts.map Part.joined)) (returned p desc dm parts)) ∧
    (Separate p.u dm parts →
      (∀ pieces ∈ docs parts, field_of p.u (Replies.outputs desc) (docName pieces) ≠ none) →
      (∃ result, returned p desc dm (parts.map Part.joined) = .ok result) →
      (returned p desc dm (parts.map Part.joined) = returned p desc dm parts ↔
        ∀ pieces ∈ docs parts, TagWhole pieces)) := by
  refine ⟨returned_joined h, fun hseparate hfields hreturns => ?_⟩
  obtain ⟨result, hresult⟩ := hreturns
  constructor
  · intro hsame pieces hpieces
    by_contra hcut
    obtain ⟨field, hfield⟩ := Option.ne_none_iff_exists'.mp (hfields pieces hpieces)
    refine found_joined h hpieces hfield hresult ?_
    exact lost_of_cut h hseparate hpieces hcut (Dicts.upper_of_field_of hfield) (hsame ▸ hresult)
  · intro hwhole
    rw [(returned_joined h hwhole).ok hresult]
    exact hresult

end Fragmentation

/-! ## One document in two cuts -/

section Cuts

open RoundTrips TableForms

/-- A reply with one document. -/
def xmlParts (pieces : List Bytes) : List Part :=
  (replyHead.map Part.record) ++ [.document pieces]

/-- A table with one row. -/
def rowDocument : Bytes := encodeLatin1Replace (lit "<TAB><item><A>1</A></item></TAB>")

/-- The document, cut at one place. -/
def cutAt (n : ℕ) : List Bytes := [rowDocument.take n, rowDocument.drop n]

theorem flatten_cutAt (n : ℕ) : (cutAt n).flatten = rowDocument := by
  unfold cutAt
  rw [List.flatten_cons, List.flatten_singleton, List.take_append_drop]

theorem xmlReply_cutAt (n : ℕ) : XmlReply (xmlParts (cutAt n)) := by
  have hlength : rowDocument.length < 256 ^ 4 := by decide
  have hhead : ∀ r ∈ replyHead, Records.Fits Tag.TERMINATOR r := by decide
  have hfits : ∀ pieces : List Bytes, (∀ piece ∈ pieces, piece.length < 256 ^ 4) →
      ∀ r ∈ (xmlParts pieces).flatMap Part.records, Records.Fits Tag.TERMINATOR r := by
    intro pieces hpieces r hr
    obtain ⟨part, hpart, hr⟩ := List.mem_flatMap.mp hr
    rcases List.mem_append.mp hpart with hpart | hpart
    · obtain ⟨q, hq, rfl⟩ := List.mem_map.mp hpart
      obtain rfl := List.mem_singleton.mp hr
      exact hhead r hq
    · obtain rfl := List.mem_singleton.mp hpart
      rcases List.mem_append.mp hr with hr | hr
      · rcases List.mem_cons.mp hr with rfl | hr
        · decide
        · obtain ⟨piece, hpiece, rfl⟩ := List.mem_map.mp hr
          exact ⟨show Tag.BASXML_DATA < _ by decide, show Tag.BASXML_DATA ≠ _ by decide,
            hpieces piece hpiece⟩
      · obtain rfl := List.mem_singleton.mp hr
        decide
  refine ⟨hfits _ fun piece hpiece => ?_, ?_, fun r hr => ?_, fun pieces hpieces => ?_⟩
  · rcases List.mem_pair.mp hpiece with rfl | rfl
    · exact lt_of_le_of_lt (List.length_take_le' _ _) hlength
    · exact lt_of_le_of_lt (by rw [List.length_drop]; omega) hlength
  · refine hfits [(cutAt n).flatten] fun piece hpiece => ?_
    obtain rfl := List.mem_singleton.mp hpiece
    rw [flatten_cutAt]
    exact hlength
  · rcases List.mem_append.mp hr with hr | hr
    · obtain ⟨q, hq, heq⟩ := List.mem_map.mp hr
      obtain rfl := Part.record.inj heq
      exact (show ∀ r ∈ replyHead, r.1 ≠ Tag.BASXML_MARKER ∧ r.1 ≠ Tag.BASXML_DATA by decide) q hq
    · cases List.mem_singleton.mp hr
  · obtain rfl : pieces = cutAt n := List.mem_singleton.mp hpieces
    rw [flatten_cutAt]
    decide

/-- INTERNAL: the uncut document is returned. -/
theorem returned_uncut (n : ℕ) :
    returned bytesPlatform (tableDesc (lit "TAB")) [] ((xmlParts (cutAt n)).map Part.joined) =
      .ok [(lit "TAB", .list [.dict [(lit "A", .leaf [0x31])]])] := by
  have hjoined : (xmlParts (cutAt n)).map Part.joined = xmlParts [rowDocument] := by
    unfold xmlParts
    rw [List.map_append]
    show _ ++ [Part.document [(cutAt n).flatten]] = _
    rw [flatten_cutAt]
    rfl
  rw [hjoined]
  decide +kernel

/-- A cut behind the tag makes no difference, and one inside of it does. -/
theorem fragments_joined_row :
    Replies.Alike asciiTables (((xmlParts (cutAt 5)).map Part.joined).flatMap Part.records)
        (returned bytesPlatform (tableDesc (lit "TAB")) [] ((xmlParts (cutAt 5)).map Part.joined))
        (returned bytesPlatform (tableDesc (lit "TAB")) [] (xmlParts (cutAt 5))) ∧
      ¬ returned bytesPlatform (tableDesc (lit "TAB")) [] ((xmlParts (cutAt 2)).map Part.joined) =
        returned bytesPlatform (tableDesc (lit "TAB")) [] (xmlParts (cutAt 2)) := by
  constructor
  · refine (fragments_joined_iff (p := bytesPlatform) (xmlReply_cutAt 5)).1 fun pieces hpieces => ?_
    obtain rfl : pieces = cutAt 5 := List.mem_singleton.mp hpieces
    exact ⟨rowDocument.take 5, rfl, by decide⟩
  · intro hsame
    have hseparate : Separate bytesPlatform.u [] (xmlParts (cutAt 2)) := by
      refine ⟨by decide +kernel, by decide +kernel, fun table _ r hr => ?_⟩
      obtain ⟨hparam, htable, hdelta, hdata⟩ := (show ∀ r ∈ replyHead, r.1 ≠ Tag.PARAM_NAME ∧
        r.1 ≠ Tag.TABLE_NAME ∧ r.1 ≠ Tag.TABLE_DELTA ∧ r.1 ≠ Tag.BASXML_DATA by decide) r hr
      refine ⟨fun hnamed => ?_, fun h => absurd h hdelta, fun h => absurd h hdata⟩
      rcases hnamed with h | h
      · exact absurd h hparam
      · exact absurd h.1 htable
    have hwhole : ∀ pieces ∈ docs (xmlParts (cutAt 2)), TagWhole pieces :=
      ((fragments_joined_iff (xmlReply_cutAt 2)).2 hseparate (by decide +kernel)
        ⟨_, returned_uncut 2⟩).mp hsame
    obtain ⟨piece, hfind, hmem⟩ := hwhole (cutAt 2) List.mem_cons_self
    obtain rfl : rowDocument.take 2 = piece := Option.some.inj hfind
    exact absurd hmem (by decide)

/-- The table is returned when its document comes in one record, and lost when the record ends
inside of the opening tag. -/
theorem fragments_lose_table :
    XmlReply (xmlParts (cutAt 2)) ∧
      returned bytesPlatform (tableDesc (lit "TAB")) [] ((xmlParts (cutAt 2)).map Part.joined) =
        .ok [(lit "TAB", .list [.dict [(lit "A", .leaf [0x31])]])] ∧
      returned bytesPlatform (tableDesc (lit "TAB")) [] (xmlParts (cutAt 2)) = .ok [] :=
  ⟨xmlReply_cutAt 2, returned_uncut 2, by decide +kernel⟩

end Cuts

end SapRfc.Analysis.XmlTables
