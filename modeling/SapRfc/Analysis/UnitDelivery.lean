import SapRfc.Analysis.Replies
import SapRfc.Analysis.RequestRecords
import SapRfc.Analysis.Residue
import SapRfc.Analysis.Shipping
import SapRfc.Analysis.TextCodecs

/-!
# What a unit makes the server do

The calls of a unit travel as raw values of numbered names.  The server finds each under its
name, takes the function name off its front, and calls the handlers one behind the other until
one fails.
-/

set_option autoImplicit false

namespace SapRfc.Analysis.UnitDelivery

open SapRfc.Library SapRfc.Program Shipping PairGroups TextCodecs

variable {χ V : Type}

/-! ## The names of a unit -/

/-- A character of the names that a unit is made of. -/
def KeyChar (c : ℕ) : Prop := 48 ≤ c ∧ c ≤ 57 ∨ 65 ≤ c ∧ c ≤ 90 ∨ c = 95

instance (c : ℕ) : Decidable (KeyChar c) := by unfold KeyChar; infer_instance

/-- The tables are right for upper-case ASCII names and for decimal numbers. -/
structure Standard (u : Unicode) : Prop where
  upper : ∀ s : PyStr, (∀ c ∈ s, KeyChar c) → u.upper s = s
  int : ∀ n : ℕ, u.int (dec n) = some (n : ℤ)

/-- INTERNAL: a numbered name is in upper case. -/
theorem keyChar_numbered {stem : PyStr} (h : ∀ c ∈ stem, KeyChar c) (n : ℕ) :
    ∀ c ∈ stem ++ dec n, KeyChar c := by
  intro c hc
  rcases List.mem_append.mp hc with hc | hc
  · exact h c hc
  · exact .inl (mem_dec hc)

theorem isText_of_keyChar {s : PyStr} (h : ∀ c ∈ s, KeyChar c) : IsText s := by
  intro c hc
  have hkey := h c hc
  unfold KeyChar at hkey
  omega

/-- INTERNAL: a text without padding is not stripped. -/
theorem trimmed_of_forall {s : PyStr} (h : ∀ c ∈ s, c ∉ padding) : Trimmed s := by
  have hreverse : s.reverse.dropWhile (· ∈ padding) = s.reverse := by
    cases hs : s.reverse with
    | nil => rfl
    | cons c rest =>
      have hmem : c ∈ s := List.mem_reverse.mp (hs ▸ List.mem_cons_self)
      exact List.dropWhile_cons_of_neg (by simpa using h c hmem)
  unfold Trimmed rstrip
  rw [hreverse, List.reverse_reverse]

theorem trimmed_of_keyChar {s : PyStr} (h : ∀ c ∈ s, KeyChar c) : Trimmed s := by
  refine trimmed_of_forall fun c hc hpadding => ?_
  have hkey := h c hc
  rcases List.mem_pair.mp hpadding with rfl | rfl <;> revert hkey <;> decide

/-- The name reads back as it was written. -/
theorem decode_key {s : PyStr} {b : Bytes} (h : ∀ c ∈ s, KeyChar c)
    (hencode : encodeUtf16le s = .ok b) : decode_utf16le b = s :=
  decode_utf16le_trimmed (isText_of_keyChar h) (trimmed_of_keyChar h) hencode

theorem dec_ne_nil (n : ℕ) : dec n ≠ [] := by
  intro hnil
  have hdigits : (toString n).toList = [] := List.map_eq_nil_iff.mp hnil
  rw [show toString n = n.repr from rfl, Nat.toList_repr] at hdigits
  exact absurd hdigits (Nat.toDigits_ne_nil)

/-! ## The records of a unit -/

/-- The names and values of a unit, in the order they are written. -/
def unitPairs (unit_id unit_type : PyStr) (queue_names : List PyStr) (buffered_calls : List Bytes) :
    List (PyStr × Except PyError Bytes) :=
  [(lit "BGRFC_UNIT_ID", encodeUtf16le unit_id),
    (lit "BGRFC_UNIT_TYPE", encodeUtf16le unit_type)] ++
    (queue_names.zipIdx.filter (·.1 ≠ [])).map (fun e =>
      (lit "BGRFC_QUEUE_" ++ dec e.2, encodeUtf16le e.1)) ++
    (if buffered_calls = [] then []
    else [(lit "BGRFC_CALL_COUNT", encodeUtf16le (dec buffered_calls.length))]) ++
    buffered_calls.zipIdx.map fun e => (call_name e.2, .ok e.1)

section Pairs

variable {unit_id unit_type : PyStr} {queue_names : List PyStr} {buffered_calls : List Bytes}

/-- The pairs of a unit: which they are, and the value of each. -/
theorem mem_unitPairs {e : PyStr × Except PyError Bytes}
    (h : e ∈ unitPairs unit_id unit_type queue_names buffered_calls) :
    e = (lit "BGRFC_UNIT_ID", encodeUtf16le unit_id) ∨
      e = (lit "BGRFC_UNIT_TYPE", encodeUtf16le unit_type) ∨
      (∃ i, e.1 = lit "BGRFC_QUEUE_" ++ dec i) ∨
      e = (lit "BGRFC_CALL_COUNT", encodeUtf16le (dec buffered_calls.length)) ∨
      ∃ i data, buffered_calls[i]? = some data ∧ e = (call_name i, .ok data) := by
  unfold unitPairs at h
  rcases List.mem_append.mp h with h | h
  · rcases List.mem_append.mp h with h | h
    · rcases List.mem_append.mp h with h | h
      · rcases List.mem_pair.mp h with rfl | rfl
        · exact .inl rfl
        · exact .inr (.inl rfl)
      · obtain ⟨q, -, rfl⟩ := List.mem_map.mp h
        exact .inr (.inr (.inl ⟨q.2, rfl⟩))
    · split at h
      · cases h
      · exact .inr (.inr (.inr (.inl (List.mem_singleton.mp h))))
  · obtain ⟨c, hc, rfl⟩ := List.mem_map.mp h
    exact .inr (.inr (.inr (.inr ⟨c.2, c.1, List.mem_zipIdx_iff_getElem?.mp hc, rfl⟩)))

/-- INTERNAL: a count is no numbered call. -/
theorem count_ne_call (i : ℕ) : lit "BGRFC_CALL_COUNT" ≠ call_name i := by
  intro h
  have hcount : lit "COUNT" = dec i := List.append_cancel_left
      ((show lit "BGRFC_CALL_" ++ lit "COUNT" =
    lit "BGRFC_CALL_" ++ dec i from h))
  have hdigit := mem_dec (n := i) (c := 67) (by rw [← hcount]; decide)
  omega

/-- INTERNAL: the seventh characters of two names differ. -/
theorem ne_of_seventh {s t : PyStr} {a b : ℕ} (hs : s[6]? = some a) (ht : t[6]? = some b)
    (h : a ≠ b) : s ≠ t := by
  rintro rfl
  exact h (Option.some.inj (hs.symm.trans ht))

/-- Every name of a unit is in upper case. -/
theorem keyChar_of_mem {e : PyStr × Except PyError Bytes}
    (h : e ∈ unitPairs unit_id unit_type queue_names buffered_calls) : ∀ c ∈ e.1, KeyChar c := by
  rcases mem_unitPairs h with rfl | rfl | ⟨i, hname⟩ | rfl | ⟨i, data, -, rfl⟩
  · exact show ∀ c ∈ lit "BGRFC_UNIT_ID", KeyChar c by decide
  · exact show ∀ c ∈ lit "BGRFC_UNIT_TYPE", KeyChar c by decide
  · rw [hname]
    exact keyChar_numbered (show ∀ c ∈ lit "BGRFC_QUEUE_", KeyChar c by decide) i
  · exact show ∀ c ∈ lit "BGRFC_CALL_COUNT", KeyChar c by decide
  · exact keyChar_numbered (show ∀ c ∈ lit "BGRFC_CALL_", KeyChar c by decide) i

/-- Under the name of a call stands that call. -/
theorem eq_of_call_name {e : PyStr × Except PyError Bytes} {i : ℕ}
    (h : e ∈ unitPairs unit_id unit_type queue_names buffered_calls) (hname : e.1 = call_name i) :
    ∃ data, buffered_calls[i]? = some data ∧ e = (call_name i, .ok data) := by
  have hcall : (call_name i)[6]? = some 67 := rfl
  rcases mem_unitPairs h with rfl | rfl | ⟨j, hqueue⟩ | rfl | ⟨j, data, hdata, rfl⟩
  · exact absurd hname (ne_of_seventh (show (lit "BGRFC_UNIT_ID")[6]? = some 85 from rfl) hcall
      (by decide))
  · exact absurd hname (ne_of_seventh (show (lit "BGRFC_UNIT_TYPE")[6]? = some 85 from rfl) hcall
      (by decide))
  · exact absurd (hqueue.symm.trans hname)
      (ne_of_seventh (show (lit "BGRFC_QUEUE_" ++ dec j)[6]? = some 81 from rfl) hcall (by decide))
  · exact absurd hname (count_ne_call i)
  · obtain rfl : j = i := dec_injective (List.append_cancel_left hname)
    exact ⟨data, hdata, rfl⟩

/-- Under the name of the count stands the count. -/
theorem eq_of_count_name {e : PyStr × Except PyError Bytes}
    (h : e ∈ unitPairs unit_id unit_type queue_names buffered_calls)
    (hname : e.1 = lit "BGRFC_CALL_COUNT") :
    e = (lit "BGRFC_CALL_COUNT", encodeUtf16le (dec buffered_calls.length)) := by
  have hcount : (lit "BGRFC_CALL_COUNT")[6]? = some 67 := rfl
  rcases mem_unitPairs h with rfl | rfl | ⟨j, hqueue⟩ | rfl | ⟨j, data, hdata, rfl⟩
  · exact absurd hname (show lit "BGRFC_UNIT_ID" ≠ lit "BGRFC_CALL_COUNT" by decide)
  · exact absurd hname (show lit "BGRFC_UNIT_TYPE" ≠ lit "BGRFC_CALL_COUNT" by decide)
  · exact absurd (hqueue.symm.trans hname)
      (ne_of_seventh (show (lit "BGRFC_QUEUE_" ++ dec j)[6]? = some 81 from rfl) hcount (by decide))
  · rfl
  · exact absurd hname.symm (count_ne_call j)

end Pairs

/-! ## A list of pairs on the wire -/

/-- What there is, where it is there. -/
def bytesOf (value : Except PyError Bytes) : Bytes :=
  match value with
  | .ok data => data
  | .error _ => []

/-- The group of a pair. -/
def pairGroup (e : PyStr × Except PyError Bytes) : Group :=
  scalarGroup e.1 (bytesOf (encodeUtf16le e.1)) (bytesOf e.2)

/-- The records in front of the pairs. -/
def headRecords (func_name : Bytes) : List (ℕ × Bytes) :=
  [(Tag.CALL_START, []), (Tag.RFC_VERSION, RFC_VERSION_BYTES), (Tag.FUNC_NAME, func_name),
    (Tag.PARAM_SECTION, [])]

/-- Everything of the pair can be written. -/
def Written (e : PyStr × Except PyError Bytes) : Prop :=
  (∃ name, encodeUtf16le e.1 = .ok name) ∧ ∃ data, e.2 = .ok data

/-- A request of named values: all of them were encoded, and it is a complete stream. -/
theorem write_pairs_eq_ok {func_name : PyStr} {pairs : List (PyStr × Except PyError Bytes)}
    {out : Bytes} (h : write_records (request_head func_name ++
      pairs.flatMap (fun e => named_value e.1 e.2) ++ [(Tag.TERMINATOR, .ok [])]) = .ok out) :
    ∃ func, encodeUtf16le func_name = .ok func ∧ (∀ e ∈ pairs, Written e) ∧
      (∀ r ∈ headRecords func ++ (pairs.map pairGroup).flatMap Group.records,
        Records.Fits Tag.TERMINATOR r) ∧
      out = Records.stream Tag.TERMINATOR
        (headRecords func ++ (pairs.map pairGroup).flatMap Group.records) := by
  have hall := RequestRecords.write_mem_eq_ok h
  obtain ⟨func, hfunc⟩ : ∃ func, encodeUtf16le func_name = .ok func :=
    hall (Tag.FUNC_NAME, encodeUtf16le func_name)
      (List.mem_append_left _ (List.mem_append_left _ (by simp [request_head])))
  have hwritten : ∀ e ∈ pairs, Written e := by
    intro e he
    have hrecord : ∀ r ∈ named_value e.1 e.2, ∃ data, r.2 = .ok data := fun r hr =>
      hall r (List.mem_append_left _ (List.mem_append_right _ (List.mem_flatMap.mpr ⟨e, he, hr⟩)))
    exact ⟨hrecord _ List.mem_cons_self, hrecord _ (List.mem_cons_of_mem _ List.mem_cons_self)⟩
  have hpairs : pairs.flatMap (fun e => named_value e.1 e.2) =
      ((pairs.map pairGroup).flatMap Group.records).map fun r => (r.1, Except.ok r.2) := by
    rw [List.flatMap_map, List.map_flatMap]
    refine List.flatMap_congr fun e he => ?_
    obtain ⟨⟨name, hname⟩, data, hdata⟩ := hwritten e he
    simp only [named_value, pairGroup, scalarGroup, hname, hdata, bytesOf, List.map_cons,
      List.map_nil]
  have hrecords : request_head func_name ++ pairs.flatMap (fun e => named_value e.1 e.2) ++
      [(Tag.TERMINATOR, .ok [])] =
      (headRecords func ++ (pairs.map pairGroup).flatMap Group.records ++
        [(Tag.TERMINATOR, [])]).map fun r : ℕ × Bytes => (r.1, Except.ok r.2) := by
    rw [hpairs, List.map_append, List.map_append]
    simp only [request_head, headRecords, hfunc, List.map_cons, List.map_nil]
  rw [hrecords] at h
  obtain ⟨hout, hsized⟩ := RequestRecords.write_records_ok _ h
  refine ⟨func, hfunc, hwritten, ?_, ?_⟩
  · intro r hr
    obtain ⟨htag, hlength⟩ := hsized r (List.mem_append_left _ hr)
    refine ⟨htag, ?_, hlength⟩
    rcases List.mem_append.mp hr with hr | hr
    · have hother : ∀ q ∈ headRecords func, q.1 ∈ RequestRecords.headTags := by
        intro q hq
        simp only [headRecords, List.mem_cons, List.not_mem_nil, or_false] at hq
        rcases hq with rfl | rfl | rfl | rfl <;> simp [RequestRecords.headTags]
      intro heq
      exact absurd (heq ▸ hother r hr) (by decide)
    · obtain ⟨g, hg, hr⟩ := List.mem_flatMap.mp hr
      obtain ⟨e, -, rfl⟩ := List.mem_map.mp hg
      rcases List.mem_pair.mp hr with rfl | rfl
      · exact show Tag.PARAM_NAME ≠ Tag.TERMINATOR by decide
      · exact show Tag.PARAM_VALUE ≠ Tag.TERMINATOR by decide
  · rw [hout]
    unfold Records.stream
    rw [List.flatMap_append]
    simp

/-! ## What is read of them -/

/-- INTERNAL: the one element that a search can find. -/
theorem find?_of_unique {α : Type} {l : List α} {P : α → Bool} {a : α} (hmem : a ∈ l)
    (hP : P a = true) (hunique : ∀ b ∈ l, P b = true → b = a) : l.find? P = some a := by
  obtain ⟨b, hb⟩ := Option.isSome_iff_exists.mp (List.find?_isSome.mpr ⟨a, hmem, hP⟩)
  rw [hb, hunique b (List.mem_of_find?_eq_some hb) (List.find?_some hb)]

section Reading

variable {p : Platform V} {pairs : List (PyStr × Except PyError Bytes)} {func : Bytes}

/-- The stream of a request of named values. -/
def pairStream (func : Bytes) (pairs : List (PyStr × Except PyError Bytes)) : Bytes :=
  Records.stream Tag.TERMINATOR
    (headRecords func ++ (pairs.map pairGroup).flatMap Group.records)

/-- The names are written, and in upper case; the records fit. -/
structure Legible (func : Bytes) (pairs : List (PyStr × Except PyError Bytes)) : Prop where
  keys : ∀ e ∈ pairs, ∀ c ∈ e.1, KeyChar c
  written : ∀ e ∈ pairs, Written e
  fits : ∀ r ∈ headRecords func ++ (pairs.map pairGroup).flatMap Group.records,
    Records.Fits Tag.TERMINATOR r

/-- INTERNAL: the name of a group reads back. -/
theorem Legible.name_read (h : Legible func pairs) {e : PyStr × Except PyError Bytes}
    (he : e ∈ pairs) : decode_utf16le (bytesOf (encodeUtf16le e.1)) = e.1 := by
  obtain ⟨⟨name, hname⟩, -⟩ := h.written e he
  rw [hname]
  exact decode_key (h.keys e he) hname

/-- INTERNAL: the head means nothing to the walker. -/
theorem head_other (func : Bytes) : ∀ r ∈ headRecords func, r.1 ∉ pairTags := by
  intro r hr
  simp only [headRecords, List.mem_cons, List.not_mem_nil, or_false] at hr
  rcases hr with rfl | rfl | rfl | rfl
  · exact show Tag.CALL_START ∉ pairTags by decide
  · exact show Tag.RFC_VERSION ∉ pairTags by decide
  · exact show Tag.FUNC_NAME ∉ pairTags by decide
  · exact show Tag.PARAM_SECTION ∉ pairTags by decide

/-- The walker reads the pairs as they are. -/
theorem Legible.pairs_read (h : Legible func pairs) :
    extract_name_value_pairs p.codec (pairStream func pairs) =
      .ok (pairs.map fun e => (e.1, bytesOf e.2)) := by
  have hgroups : ∀ g ∈ pairs.map pairGroup, g.Reads p.codec := by
    intro g hg
    obtain ⟨e, he, rfl⟩ := List.mem_map.mp hg
    exact reads_scalarGroup _ (h.name_read he)
  obtain ⟨s, hhead, hreaches⟩ : ∃ s, (headRecords func).foldlM (pair_record p.codec [])
      PairState.init = .ok s ∧ Reaches p.codec s [] [] :=
    Reaches.other reaches_init (head_other func)
  obtain ⟨s', hrun, hend⟩ := run_groups [] hgroups hreaches
  have hall := extract_named_values_of_reaches h.fits
    ⟨s', by rw [List.foldlM_append, hhead]; exact hrun, hend⟩
  unfold extract_name_value_pairs pairStream
  rw [hall, Eff.except_ok_bind, List.map_map]
  rfl

/-- A text of the request, where its name is found at one pair only. -/
theorem Legible.text_read (h : Legible func pairs) (hu : Standard p.u) {name text : PyStr}
    {data : Bytes} (hmem : (name, .ok data) ∈ pairs)
    (hunique : ∀ e ∈ pairs, e.1 = name → e = (name, .ok data))
    (hdecode : decode_utf16le data = text) :
    extract_param_from_frame p (pairStream func pairs) name = .ok text := by
  have hfind : (pairs.map fun e => (e.1, bytesOf e.2)).find?
      (fun e => p.u.upper e.1 = p.u.upper name) = some (name, data) := by
    refine find?_of_unique (List.mem_map.mpr ⟨_, hmem, rfl⟩) (decide_eq_true rfl) ?_
    intro b hb hupper
    obtain ⟨e, he, rfl⟩ := List.mem_map.mp hb
    have hname : e.1 = name := by
      have heq := of_decide_eq_true hupper
      rwa [hu.upper _ (h.keys e he), hu.upper _ (h.keys _ hmem)] at heq
    rw [hunique e he hname]
    rfl
  unfold extract_param_from_frame
  rw [h.pairs_read, Eff.except_ok_bind]
  simp only
  rw [hfind]
  simp only [hdecode]

/-- INTERNAL: the tags of the stream. -/
theorem tag_of_pairs {r : ℕ × Bytes}
    (hr : r ∈ headRecords func ++ (pairs.map pairGroup).flatMap Group.records) :
    r.1 ∈ [Tag.CALL_START, Tag.RFC_VERSION, Tag.FUNC_NAME, Tag.PARAM_SECTION, Tag.PARAM_NAME,
      Tag.PARAM_VALUE] := by
  rcases List.mem_append.mp hr with hr | hr
  · simp only [headRecords, List.mem_cons, List.not_mem_nil, or_false] at hr
    rcases hr with rfl | rfl | rfl | rfl <;> simp
  · obtain ⟨g, hg, hr⟩ := List.mem_flatMap.mp hr
    obtain ⟨e, -, rfl⟩ := List.mem_map.mp hg
    rcases List.mem_pair.mp hr with rfl | rfl <;> simp

/-- A name that no pair has is read as nothing. -/
theorem Legible.text_missing (h : Legible func pairs) (hu : Standard p.u) {name : PyStr}
    (hkey : ∀ c ∈ name, KeyChar c) (hnone : ∀ e ∈ pairs, e.1 ≠ name) :
    extract_param_from_frame p (pairStream func pairs) name = .ok [] := by
  have hfind : (pairs.map fun e => (e.1, bytesOf e.2)).find?
      (fun e => p.u.upper e.1 = p.u.upper name) = none := by
    rw [List.find?_eq_none]
    intro b hb hupper
    obtain ⟨e, he, rfl⟩ := List.mem_map.mp hb
    have heq := of_decide_eq_true hupper
    rw [hu.upper _ (h.keys e he), hu.upper _ hkey] at heq
    exact hnone e he heq
  have hcompact : Tags.get (headRecords func ++ (pairs.map pairGroup).flatMap Group.records)
      Tag.COMPACT_PARAMS = none := by
    unfold Tags.get
    rw [List.find?_eq_none.mpr, Option.map_none]
    intro r hr htag
    have hmem := tag_of_pairs (List.mem_reverse.mp hr)
    rw [of_decide_eq_true htag] at hmem
    exact absurd hmem (by decide)
  unfold extract_param_from_frame
  rw [h.pairs_read, Eff.except_ok_bind]
  simp only
  rw [hfind]
  simp only [pairStream]
  rw [Replies.parse_tlv_stream_stream h.fits, Eff.except_ok_bind, hcompact]

/-- INTERNAL: the search through the records is the search through the pairs. -/
theorem find_raw_param_pairs (hread : ∀ e ∈ pairs,
      decode_utf16le (bytesOf (encodeUtf16le e.1)) = e.1) (key : PyStr) :
    find_raw_param p key none ((pairs.map pairGroup).flatMap Group.records) =
      (pairs.find? fun e => p.u.upper e.1 = key).map fun e => bytesOf e.2 := by
  induction pairs with
  | nil => rfl
  | cons e rest ih =>
    have hname : decode_utf16le (bytesOf (encodeUtf16le e.1)) = e.1 := hread e List.mem_cons_self
    rw [List.map_cons, List.flatMap_cons, List.find?_cons]
    simp only [pairGroup, scalarGroup, List.cons_append, List.nil_append, find_raw_param, hname,
      show Tag.PARAM_VALUE ≠ Tag.PARAM_NAME by decide, if_true, if_false]
    by_cases hkey : p.u.upper e.1 = key
    · simp [hkey]
    · simp only [hkey, if_false, decide_false]
      exact ih fun q hq => hread q (List.mem_cons_of_mem _ hq)

/-- The bytes under a name, where it is found at one pair only. -/
theorem Legible.raw_read (h : Legible func pairs) (hu : Standard p.u) {name : PyStr}
    {data : Bytes} (hmem : (name, .ok data) ∈ pairs)
    (hunique : ∀ e ∈ pairs, e.1 = name → e = (name, .ok data)) :
    extract_raw_param_from_frame p (pairStream func pairs) name = some data := by
  have hwalk := Records.walk_stream (by decide) h.fits []
  rw [List.append_nil] at hwalk
  have hfind : pairs.find? (fun e => p.u.upper e.1 = p.u.upper name) = some (name, .ok data) := by
    refine find?_of_unique hmem (decide_eq_true rfl) fun e he hupper => hunique e he ?_
    have heq := of_decide_eq_true hupper
    rwa [hu.upper _ (h.keys e he), hu.upper _ (h.keys _ hmem)] at heq
  unfold extract_raw_param_from_frame pairStream
  rw [hwalk]
  have hskip : find_raw_param p (p.u.upper name) none
      (headRecords func ++ (pairs.map pairGroup).flatMap Group.records) =
      find_raw_param p (p.u.upper name) none ((pairs.map pairGroup).flatMap Group.records) := rfl
  simp only
  rw [hskip, find_raw_param_pairs fun e he => h.name_read he, hfind]
  rfl

end Reading

/-! ## A buffered call -/

/-- What the unit handle makes of a call: its name, and behind a NUL unit what the server
does not read. -/
inductive CallBytes (name : PyStr) : Bytes → Prop
  | bare {b : Bytes} (named : encodeUtf16le name = .ok b) : CallBytes name b
  | payload {b : Bytes} (named : encodeUtf16le name = .ok b) (rest : Bytes) :
      CallBytes name (b ++ 0 :: 0 :: rest)

/-- The unit handle buffers calls in that form. -/
theorem callBytes_of_buffer_call {func_name : PyStr} {params : List (PyStr × PyStr)} {b : Bytes}
    (h : buffer_call func_name params = .ok b) : CallBytes func_name b := by
  unfold buffer_call at h
  obtain ⟨name, hname, h⟩ := Eff.except_bind_eq_ok.mp h
  obtain ⟨entries, -, h⟩ := Eff.except_bind_eq_ok.mp h
  obtain rfl := Except.ok.inj h
  cases entries with
  | nil =>
    rw [List.intercalate_singleton]
    exact .bare hname
  | cons entry rest =>
    rw [List.intercalate_cons_cons, List.append_assoc]
    exact .payload hname _

/-- INTERNAL: the search passes a code unit that is not 0. -/
theorem name_end_unit {u : ℕ} (hpos : 0 < u) (h : u < 0x10000) (rest : Bytes) :
    name_end (utf16Unit u ++ rest) = (name_end rest).map (· + 2) := by
  have hunit : utf16Unit u = [UInt8.ofNat u, UInt8.ofNat (u / 256)] := by
    simp [utf16Unit, toLE, toBE]
  rw [hunit]
  show name_end (UInt8.ofNat u :: UInt8.ofNat (u / 256) :: rest) = _
  conv_lhs => unfold name_end
  rw [if_neg]
  rintro ⟨hlow, hhigh⟩
  have hlow' := congrArg UInt8.toNat hlow
  have hhigh' := congrArg UInt8.toNat hhigh
  rw [UInt8.toNat_ofNat'] at hlow' hhigh'
  change u % 2 ^ 8 = 0 at hlow'
  change u / 256 % 2 ^ 8 = 0 at hhigh'
  omega

/-- The search passes a name without NUL. -/
theorem name_end_encode {name : PyStr} {b : Bytes} (htext : IsText name) (hnul : 0 ∉ name)
    (h : encodeUtf16le name = .ok b) (rest : Bytes) :
    name_end (b ++ rest) = (name_end rest).map (· + b.length) := by
  unfold encodeUtf16le at h
  split at h
  · cases h
  · obtain rfl := Except.ok.inj h
    clear h
    rename_i hnone
    clear hnone
    induction name with
    | nil =>
      rw [List.flatMap_nil, List.nil_append]
      cases name_end rest <;> rfl
    | cons c name ih =>
      have hrest := ih (fun d hd => htext d (List.mem_cons_of_mem _ hd))
        (fun hd => hnul (List.mem_cons_of_mem _ hd))
      have hc : c < 0x110000 := htext c List.mem_cons_self
      have hpos : 0 < c := Nat.pos_of_ne_zero fun heq => hnul (heq ▸ List.mem_cons_self)
      rw [List.flatMap_cons, List.append_assoc]
      split
      · next hsmall =>
        rw [name_end_unit hpos hsmall, hrest, Option.map_map, List.length_append, utf16Unit,
          length_toLE]
        congr 1
        funext n
        show n + _ + 2 = _
        omega
      · next hlarge =>
        rw [List.append_assoc, name_end_unit (by omega) (by omega),
          name_end_unit (by omega) (by omega), hrest, Option.map_map, Option.map_map,
          List.length_append, List.length_append, utf16Unit, utf16Unit, length_toLE, length_toLE]
        congr 1
        funext n
        show n + _ + 2 + 2 = _
        omega

/-- The server reads the name of a call, without its padding. -/
theorem buffered_name_of_call {p : Platform V} {name : PyStr} {call_bytes : Bytes}
    (htext : IsText name) (hnul : 0 ∉ name) (hblank : rstrip padding name ≠ [])
    (h : CallBytes name call_bytes) :
    buffered_name p call_bytes = .ok (rstrip padding name) := by
  have hname : name ≠ [] := by
    rintro rfl
    exact hblank rfl
  cases h with
  | bare named =>
    have hend := name_end_encode htext hnul named []
    rw [List.append_nil] at hend
    unfold buffered_name
    rw [if_neg (encode_ne_nil named hname), hend]
    simp only [name_end, Option.map_none]
    rw [decodeUtf16le_encode htext named]
    simp only
    rw [if_neg hblank]
  | @payload b named rest =>
    have hend := name_end_encode htext hnul named (0 :: 0 :: rest)
    have hzero : name_end (0 :: 0 :: rest) = some 0 := by simp [name_end]
    unfold buffered_name
    rw [if_neg (by simp), hend, hzero]
    simp only [Option.map_some, Nat.zero_add, List.take_left]
    rw [decodeUtf16le_encode htext named]
    simp only
    rw [if_neg hblank]

/-! ## The handlers, one behind the other -/

/-- The handlers return, each in the state that the one before it left. -/
inductive Return : List (Handler χ V) → χ → χ → Prop
  | nil (g : χ) : Return [] g g
  | cons {h : Handler χ V} {hs : List (Handler χ V)} {g g₁ g' : χ}
      {values : Option (Values V)} (returned : Eff.run (h.body []) g = (.ok values, g₁))
      (rest : Return hs g₁ g') : Return (h :: hs) g g'

/-- The handler raises. -/
def Raises (h : Handler χ V) (g : χ) : Prop := ∃ e g', Eff.run (h.body []) g = (.error e, g')

/-- What the log shows of a call whose handler raised. -/
def raiseTrace (h : Handler χ V) : List ServerEvent := [.selected h.id, .called h.id, .raised h.id]

section Delivery

variable {p : Platform V} {srv : RfcServer χ V} {tlv : Bytes}

variable (p srv tlv) in
/-- The frame carries the calls from `i` on, and each selects its handler. -/
inductive Carries : ℕ → List (Handler χ V) → Prop
  | nil (i : ℕ) : Carries i []
  | cons {i : ℕ} {h : Handler χ V} {hs : List (Handler χ V)} {call_bytes : Bytes}
      (carried : extract_raw_param_from_frame p tlv (call_name i) = some call_bytes)
      (selects : ∀ g, Selects p srv call_bytes g h g) (synchronous : h.coroutine = false)
      (rest : Carries (i + 1) hs) : Carries i (h :: hs)

/-- How far the handlers come: all of them return, or one raises behind others that do. -/
inductive Runs (handlers : List (Handler χ V)) (g : χ) : List ServerEvent → Bool → χ → Prop
  | all {g' : χ} (returned : Return handlers g g') :
      Runs handlers g (handlers.flatMap shipTrace) true g'
  | upTo {before : List (Handler χ V)} {h : Handler χ V} {after : List (Handler χ V)} {g₁ g' : χ}
      (split : handlers = before ++ h :: after) (returned : Return before g g₁)
      (raised : Raises h g₁) : Runs handlers g (before.flatMap shipTrace ++ raiseTrace h) false g'

/-- INTERNAL: a handler that returned, in front of the others. -/
theorem Runs.cons {h : Handler χ V} {hs : List (Handler χ V)} {g g₁ g' : χ}
    {values : Option (Values V)} {d : List ServerEvent} {done : Bool}
    (hfirst : Eff.run (h.body []) g = (.ok values, g₁)) (hrest : Runs hs g₁ d done g') :
    Runs (h :: hs) g (shipTrace h ++ d) done g' := by
  cases hrest with
  | all returned => exact .all (.cons hfirst returned)
  | @upTo before q after g₂ g' split returned raised =>
    have hall : Runs (h :: hs) g ((h :: before).flatMap shipTrace ++ raiseTrace q) false g' :=
      .upTo (by rw [split, List.cons_append]) (.cons hfirst returned) raised
    rwa [List.flatMap_cons, List.append_assoc] at hall

/-- The loop over the calls shows exactly that. -/
theorem run_run_calls_of_carries {n i : ℕ} {handlers : List (Handler χ V)}
    (h : Carries p srv tlv i handlers) (g : χ) (l : List ServerEvent) :
    ∃ (d : List ServerEvent) (done : Bool) (g' : χ), Runs handlers g d done g' ∧
      (Eff.run (run_calls p srv tlv n i handlers.length) ⟨g, l⟩).2 = ⟨g', l ++ d⟩ ∧
      ((Eff.run (run_calls p srv tlv n i handlers.length) ⟨g, l⟩).1 = .ok none ↔ done = true) := by
  induction h generalizing g l with
  | nil i => exact ⟨[], true, g, .all (.nil g), by simp [run_calls], by simp [run_calls]⟩
  | @cons i h hs call_bytes carried selects synchronous rest ih =>
    rcases hbody : Eff.run (h.body []) g with ⟨e | values, g₁⟩
    · have hfails : ¬ ∃ g₂, Passes h [] g g₂ := by
        rintro ⟨g₂, hpass⟩
        unfold Passes at hpass
        simp [synchronous, hbody] at hpass
      have hcall := run_execute_buffered_call_of_not_passes (selects g) hfails l
      have hstop : (Eff.run (run_calls p srv tlv n i (hs.length + 1)) ⟨g, l⟩).1 ≠ .ok none ∧
          (Eff.run (run_calls p srv tlv n i (hs.length + 1)) ⟨g, l⟩).2.events = _ :=
        run_run_calls_stop carried hcall.1
      let w := (Eff.run (run_calls p srv tlv n i (hs.length + 1)) ⟨g, l⟩).2
      have hruns : Runs (h :: hs) g (List.flatMap shipTrace [] ++ raiseTrace h) false w.user :=
        .upTo (List.nil_append _).symm (.nil g) ⟨e, g₁, hbody⟩
      refine ⟨raiseTrace h, false, w.user, hruns, ?_, fun hok => absurd hok hstop.1,
        fun hdone => absurd hdone Bool.false_ne_true⟩
      exact congrArg (ServerWorld.mk w.user) (hstop.2.trans hcall.2)
    · have hpass : Passes h [] g g₁ := by
        unfold Passes
        simp [synchronous, hbody]
      obtain ⟨d, done, g', hruns, hworld, hanswer⟩ := ih g₁ (l ++ shipTrace h)
      refine ⟨shipTrace h ++ d, done, g', .cons hbody hruns, ?_, ?_⟩
      · rw [List.length_cons, run_run_calls_next carried
          (run_execute_buffered_call_of_passes (selects g) hpass l), hworld, List.append_assoc]
      · rw [List.length_cons, run_run_calls_next carried
          (run_execute_buffered_call_of_passes (selects g) hpass l)]
        exact hanswer

/-! ## The end of the unit -/

/-- The state that an optional callback leaves, however it ends. -/
def stateAfter (x : Option (Eff PyError χ Unit)) (g : χ) : χ :=
  match x with
  | none => g
  | some x => (Eff.run x g).2

/-- INTERNAL: an isolated callback that does not end the dispatch. -/
theorem run_isolated_after {x : Option (Eff PyError χ Unit)} {g : χ} (h : Returns x g)
    (l : List ServerEvent) : Eff.run (isolated x) ⟨g, l⟩ = (.ok (), ⟨stateAfter x g, l⟩) := by
  unfold isolated
  cases x with
  | none => rfl
  | some y =>
    rcases hy : Eff.run y g with ⟨e | _, g'⟩
    · have hattempt := run_attempt_error (run_ext_of hy l)
      rw [if_pos (h y e rfl (by rw [hy]))] at hattempt
      exact (Eff.run_bind_ok hattempt).trans (by simp [stateAfter, hy])
    · exact (Eff.run_bind_ok (run_attempt_ok (run_ext_of hy l))).trans (by simp [stateAfter, hy])

/-- The store confirms the unit, and the callbacks at its end raise nothing that is not
caught. -/
structure Closes (srv : RfcServer χ V) (unit_id unit_type : PyStr) (g : χ) : Prop where
  commit : CommitReturns srv unit_id unit_type g
  confirms : (Eff.run (srv.unit_store.confirm unit_id unit_type)
    (stateAfter (srv.on_commit_unit.map fun f => f unit_id unit_type) g)).1 = .ok ()
  told : Returns (srv.on_confirm_unit.map fun f => f unit_id unit_type)
    (Eff.run (srv.unit_store.confirm unit_id unit_type)
      (stateAfter (srv.on_commit_unit.map fun f => f unit_id unit_type) g)).2

/-- Behind calls that went through, the unit is confirmed and the answer is RFC_OK. -/
theorem run_finish_unit_of_closes {unit_id unit_type : PyStr} {g : χ}
    (h : Closes srv unit_id unit_type g) (l : List ServerEvent) :
    (Eff.run (finish_unit srv unit_id unit_type none) ⟨g, l⟩).1 = .ok build_rfc_ok_response ∧
      (Eff.run (finish_unit srv unit_id unit_type none) ⟨g, l⟩).2.events =
        l ++ [.confirmed unit_id unit_type] := by
  refine ⟨?_, run_finish_unit_of_commit h.commit l⟩
  unfold finish_unit
  simp only
  rw [Eff.run_bind_ok (run_isolated_after h.commit l), Eff.run_bind_ok (run_note _ _ _)]
  rcases hconfirm : Eff.run (srv.unit_store.confirm unit_id unit_type)
    (stateAfter (srv.on_commit_unit.map fun f => f unit_id unit_type) g) with ⟨r, g'⟩
  obtain rfl : r = .ok () := by
    have hreturns := h.confirms
    rwa [hconfirm] at hreturns
  have htold := h.told
  rw [hconfirm] at htold
  rw [Eff.run_bind_ok (run_ext_of hconfirm _), Eff.run_bind_ok (run_isolated_after htold _)]
  rfl

/-- Behind the calls of a unit: the answer and the log. -/
theorem run_unit_of_carries {unit_id unit_type : PyStr} {handlers : List (Handler χ V)} {g g₁ : χ}
    (hopens : UnitOpens p srv tlv g unit_id unit_type handlers.length g₁)
    (hcarries : Carries p srv tlv 0 handlers)
    (hcloses : ∀ g', Return handlers g₁ g' → Closes srv unit_id unit_type g')
    (l : List ServerEvent) :
    (∃ g', Return handlers g₁ g' ∧
      (Eff.run (dispatch_bgrfc_unit p srv tlv) ⟨g, l⟩).1 = .ok build_rfc_ok_response ∧
      (Eff.run (dispatch_bgrfc_unit p srv tlv) ⟨g, l⟩).2.events =
        l ++ handlers.flatMap shipTrace ++ [.confirmed unit_id unit_type]) ∨
    ∃ before h after g', handlers = before ++ h :: after ∧ Return before g₁ g' ∧ Raises h g' ∧
      (Eff.run (dispatch_bgrfc_unit p srv tlv) ⟨g, l⟩).1 ≠ .ok build_rfc_ok_response ∧
      (Eff.run (dispatch_bgrfc_unit p srv tlv) ⟨g, l⟩).2.events =
        l ++ before.flatMap shipTrace ++ raiseTrace h := by
  rw [run_dispatch_bgrfc_unit_of_opens hopens l]
  obtain ⟨d, done, g', hruns, hworld, hanswer⟩ :=
    run_run_calls_of_carries (n := handlers.length) hcarries g₁ l
  rcases hcalls : Eff.run (run_calls p srv tlv handlers.length 0 handlers.length) ⟨g₁, l⟩
    with ⟨r, w⟩
  rw [hcalls] at hworld hanswer
  obtain rfl : w = ⟨g', l ++ d⟩ := hworld
  cases hruns with
  | all returned =>
    obtain rfl : r = .ok none := hanswer.mpr rfl
    rw [Eff.run_bind_ok hcalls]
    exact .inl ⟨g', returned, run_finish_unit_of_closes (hcloses g' returned) _⟩
  | @upTo before h after g₂ _ split returned raised =>
    refine .inr ⟨before, h, after, g₂, split, returned, raised, ?_⟩
    rcases r with e | _ | message
    · rw [Eff.run_bind_error hcalls]
      exact ⟨nofun, (List.append_assoc _ _ _).symm⟩
    · exact absurd (hanswer.mp rfl) Bool.false_ne_true
    · rw [Eff.run_bind_ok hcalls]
      have hdeclines := declines_finish_unit_error srv unit_id unit_type message
        ⟨g', l ++ (before.flatMap shipTrace ++ raiseTrace h)⟩
      exact ⟨hdeclines.2, hdeclines.1.events_eq.trans (List.append_assoc _ _ _).symm⟩

end Delivery

/-! ## A unit, from the request to the answer -/

/-- A call of a unit, and the handler it is for. -/
structure ShippedCall (χ V : Type) where
  name : PyStr
  bytes : Bytes
  handler : Handler χ V

/-- The name can be written and is not blank, the bytes begin with it, and the handler is a
plain function that is registered under the name without its trailing blanks. -/
structure ShippedCall.Callable (p : Platform V) (srv : RfcServer χ V) (c : ShippedCall χ V) :
    Prop where
  text : IsText c.name
  no_nul : 0 ∉ c.name
  not_blank : rstrip padding c.name ≠ []
  serialized : CallBytes c.name c.bytes
  registered : ∃ func_desc,
    assocGet srv.registry (p.u.upper (rstrip padding c.name)) = some (func_desc, c.handler)
  synchronous : c.handler.coroutine = false

/-- The store does not know the unit, and takes it. -/
def Takes (srv : RfcServer χ V) (unit_id unit_type : PyStr) (g g' : χ) : Prop :=
  ∃ g₁, Eff.run (srv.check_unit unit_id unit_type) g = (.ok false, g₁) ∧
    Eff.run (srv.unit_store.persist unit_id unit_type) g₁ = (.ok (), g')

section Unit

variable {p : Platform V} {srv : RfcServer χ V} {unit_id unit_type : PyStr}
  {queue_names : List PyStr} {buffered_calls : List Bytes} {request : Bytes}

/-- A unit that is built has a valid id and a known type, and its request is that of its
pairs. -/
theorem build_bgrfc_request_eq_ok
    (h : build_bgrfc_request p.u unit_id unit_type queue_names buffered_calls = .ok request) :
    (unit_id.length = UNITID_LN ∧ ∀ c ∈ unit_id, c ∈ UNITID_CHARSET) ∧
      (unit_type = lit "T" ∨ unit_type = lit "Q") ∧
      ∃ func, encodeUtf16le BGRFC_DEST_SHIP = .ok func ∧
        Legible func (unitPairs unit_id unit_type queue_names buffered_calls) ∧
        request = pairStream func (unitPairs unit_id unit_type queue_names buffered_calls) := by
  unfold build_bgrfc_request at h
  obtain ⟨_, hvalid, h⟩ := Eff.except_bind_eq_ok.mp h
  split at h
  · cases h
  next htype =>
    refine ⟨?_, ?_, ?_⟩
    · unfold validate_unit_id at hvalid
      split at hvalid
      · cases hvalid
      next hlength =>
        simp only at hvalid
        split at hvalid
        · cases hvalid
        next hbad =>
          refine ⟨not_not.mp hlength, fun c hc => ?_⟩
          rw [not_not, List.filter_eq_nil_iff] at hbad
          simpa using hbad c hc
    · exact List.mem_pair.mp (not_not.mp htype)
    · have hpairs : request_head BGRFC_DEST_SHIP ++
          (unitPairs unit_id unit_type queue_names buffered_calls).flatMap
            (fun e => named_value e.1 e.2) ++ [(Tag.TERMINATOR, .ok [])] =
          request_head BGRFC_DEST_SHIP ++
            named_value (lit "BGRFC_UNIT_ID") (encodeUtf16le unit_id) ++
            named_value (lit "BGRFC_UNIT_TYPE") (encodeUtf16le unit_type) ++
            (queue_names.zipIdx.filter (·.1 ≠ [])).flatMap (fun e =>
              named_value (lit "BGRFC_QUEUE_" ++ dec e.2) (encodeUtf16le e.1)) ++
            (if buffered_calls = [] then []
            else named_value (lit "BGRFC_CALL_COUNT")
              (encodeUtf16le (dec buffered_calls.length))) ++
            buffered_calls.zipIdx.flatMap (fun e =>
              named_value (lit "BGRFC_CALL_" ++ dec e.2) (.ok e.1)) ++
            [(Tag.TERMINATOR, .ok [])] := by
        unfold unitPairs
        rw [List.flatMap_append, List.flatMap_append, List.flatMap_append, List.flatMap_map,
          List.flatMap_map, List.flatMap_cons, List.flatMap_cons, List.flatMap_nil,
          List.append_nil]
        split <;> simp only [List.flatMap_nil, List.flatMap_singleton, List.append_assoc] <;> rfl
      rw [← hpairs] at h
      obtain ⟨func, hfunc, hwritten, hfits, hrequest⟩ := write_pairs_eq_ok h
      exact ⟨func, hfunc, ⟨fun e he => keyChar_of_mem he, hwritten, hfits⟩, hrequest⟩

/-- INTERNAL: the stream begins with the first record of a call. -/
theorem strip_pairStream (func : Bytes) (pairs : List (PyStr × Except PyError Bytes)) :
    strip_gw_header (pairStream func pairs) = pairStream func pairs := by
  obtain ⟨rest, hrest⟩ : ∃ rest, pairStream func pairs =
      UInt8.ofNat (Tag.CALL_START / 256 ^ 1) :: rest := ⟨_, rfl⟩
  rw [hrest]
  simp only [strip_gw_header]
  rw [if_neg (show ¬ UInt8.ofNat (Tag.CALL_START / 256 ^ 1) = 0x06 by decide)]

/-- INTERNAL: the function name of a request of named values. -/
theorem Legible.func_read {func : Bytes} {pairs : List (PyStr × Except PyError Bytes)}
    (h : Legible func pairs) :
    read_func_name (pairStream func pairs) = .ok (decode_utf16le func) := by
  have hget : Tags.get (headRecords func ++ (pairs.map pairGroup).flatMap Group.records)
      Tag.FUNC_NAME = some func := by
    have hpairs : ∀ r ∈ (pairs.map pairGroup).flatMap Group.records, r.1 ≠ Tag.FUNC_NAME := by
      intro r hr
      obtain ⟨g, hg, hr⟩ := List.mem_flatMap.mp hr
      obtain ⟨e, -, rfl⟩ := List.mem_map.mp hg
      rcases List.mem_pair.mp hr with rfl | rfl
      · exact show Tag.PARAM_NAME ≠ Tag.FUNC_NAME by decide
      · exact show Tag.PARAM_VALUE ≠ Tag.FUNC_NAME by decide
    have hhead := Replies.get_append_middle Tag.FUNC_NAME (headRecords func) _ [] hpairs
    rw [List.append_nil, List.append_nil] at hhead
    rw [hhead]
    rfl
  unfold read_func_name pairStream
  rw [Replies.parse_tlv_stream_stream h.fits, Eff.except_ok_bind]
  simp only [hget]

/-- INTERNAL: hexadecimal digits are no padding. -/
theorem hex_keyChar {s : PyStr} (h : ∀ c ∈ s, c ∈ UNITID_CHARSET) : ∀ c ∈ s, KeyChar c := by
  have hall : ∀ c ∈ UNITID_CHARSET, KeyChar c := by decide
  exact fun c hc => hall c (h c hc)

variable (unit_id unit_type queue_names buffered_calls) in
/-- INTERNAL: two pairs of a unit that are always there. -/
theorem unit_pairs_mem :
    (lit "BGRFC_UNIT_ID", encodeUtf16le unit_id) ∈
        unitPairs unit_id unit_type queue_names buffered_calls ∧
      (lit "BGRFC_UNIT_TYPE", encodeUtf16le unit_type) ∈
        unitPairs unit_id unit_type queue_names buffered_calls := by
  unfold unitPairs
  constructor <;> simp

/-- INTERNAL: under the names of id and type stands what was written. -/
theorem eq_of_unit_name {e : PyStr × Except PyError Bytes}
    (h : e ∈ unitPairs unit_id unit_type queue_names buffered_calls) :
    (e.1 = lit "BGRFC_UNIT_ID" → e = (lit "BGRFC_UNIT_ID", encodeUtf16le unit_id)) ∧
      (e.1 = lit "BGRFC_UNIT_TYPE" → e = (lit "BGRFC_UNIT_TYPE", encodeUtf16le unit_type)) := by
  have hid : (lit "BGRFC_UNIT_ID")[6]? = some 85 := rfl
  have htype : (lit "BGRFC_UNIT_TYPE")[6]? = some 85 := rfl
  have hdiffer : lit "BGRFC_UNIT_ID" ≠ lit "BGRFC_UNIT_TYPE" := by decide
  have hother : ∀ {name : PyStr} {a : ℕ}, name[6]? = some a → a ≠ 85 →
      name ≠ lit "BGRFC_UNIT_ID" ∧ name ≠ lit "BGRFC_UNIT_TYPE" := fun hname hne =>
    ⟨ne_of_seventh hname hid hne, ne_of_seventh hname htype hne⟩
  have hno : ∀ {name : PyStr} {a : ℕ}, e.1 = name → name[6]? = some a → a ≠ 85 →
      (e.1 = lit "BGRFC_UNIT_ID" → e = (lit "BGRFC_UNIT_ID", encodeUtf16le unit_id)) ∧
        (e.1 = lit "BGRFC_UNIT_TYPE" → e = (lit "BGRFC_UNIT_TYPE", encodeUtf16le unit_type)) := by
    rintro name a rfl hname hne
    exact ⟨fun heq => absurd heq (hother hname hne).1, fun heq => absurd heq (hother hname hne).2⟩
  rcases mem_unitPairs h with rfl | rfl | ⟨i, hname⟩ | rfl | ⟨i, data, -, rfl⟩
  · exact ⟨fun _ => rfl, fun heq => absurd heq hdiffer⟩
  · exact ⟨fun heq => absurd heq.symm hdiffer, fun _ => rfl⟩
  · exact hno hname (show (lit "BGRFC_QUEUE_" ++ dec i)[6]? = some 81 from rfl) (by decide)
  · exact hno rfl (show (lit "BGRFC_CALL_COUNT")[6]? = some 67 from rfl) (by decide)
  · exact hno rfl (show (call_name i)[6]? = some 67 from rfl) (by decide)

/-- INTERNAL: the number of calls is read back. -/
theorem count_read {func : Bytes} (hu : Standard p.u)
    (h : Legible func (unitPairs unit_id unit_type queue_names buffered_calls)) :
    ∃ count_str, extract_param_from_frame p
        (pairStream func (unitPairs unit_id unit_type queue_names buffered_calls))
        (lit "BGRFC_CALL_COUNT") = .ok count_str ∧
      parse_call_count p count_str = .ok buffered_calls.length := by
  by_cases hnil : buffered_calls = []
  · have hnone : ∀ e ∈ unitPairs unit_id unit_type queue_names buffered_calls,
        e.1 ≠ lit "BGRFC_CALL_COUNT" := by
      intro e he hname
      unfold unitPairs at he
      rw [if_pos hnil, hnil, List.append_nil] at he
      rcases List.mem_append.mp he with he | he
      · rcases List.mem_append.mp he with he | he
        · rcases List.mem_pair.mp he with rfl | rfl
          · exact absurd hname (show lit "BGRFC_UNIT_ID" ≠ lit "BGRFC_CALL_COUNT" by decide)
          · exact absurd hname (show lit "BGRFC_UNIT_TYPE" ≠ lit "BGRFC_CALL_COUNT" by decide)
        · obtain ⟨q, -, rfl⟩ := List.mem_map.mp he
          exact absurd hname (ne_of_seventh
            (show (lit "BGRFC_QUEUE_" ++ dec q.2)[6]? = some 81 from rfl)
            (show (lit "BGRFC_CALL_COUNT")[6]? = some 67 from rfl) (by decide))
      · cases he
    refine ⟨[], h.text_missing hu (by decide) hnone, ?_⟩
    rw [hnil]
    rfl
  · have hmem : (lit "BGRFC_CALL_COUNT", encodeUtf16le (dec buffered_calls.length)) ∈
        unitPairs unit_id unit_type queue_names buffered_calls := by
      unfold unitPairs
      rw [if_neg hnil]
      simp
    obtain ⟨-, data, hdata⟩ := h.written _ hmem
    simp only at hdata
    have hkeys : ∀ c ∈ dec buffered_calls.length, KeyChar c := fun c hc => .inl (mem_dec hc)
    refine ⟨dec buffered_calls.length, h.text_read hu (hdata ▸ hmem)
      (fun e he hname => hdata ▸ eq_of_count_name he hname) (decode_key hkeys hdata), ?_⟩
    unfold parse_call_count
    rw [if_neg (dec_ne_nil _), hu.int]

/-- The request opens the unit on a server that takes it. -/
theorem opens_of_request (hu : Standard p.u) {func : Bytes}
    (hid : unit_id.length = UNITID_LN ∧ ∀ c ∈ unit_id, c ∈ UNITID_CHARSET)
    (htype : unit_type = lit "T" ∨ unit_type = lit "Q")
    (h : Legible func (unitPairs unit_id unit_type queue_names buffered_calls)) {g g' : χ}
    (htakes : Takes srv unit_id unit_type g g') :
    UnitOpens p srv (pairStream func (unitPairs unit_id unit_type queue_names buffered_calls)) g
      unit_id unit_type buffered_calls.length g' := by
  obtain ⟨g₁, hfresh, hpersisted⟩ := htakes
  obtain ⟨hidmem, htypemem⟩ := unit_pairs_mem unit_id unit_type queue_names buffered_calls
  obtain ⟨-, id_data, hid_data⟩ := h.written _ hidmem
  obtain ⟨-, type_data, htype_data⟩ := h.written _ htypemem
  simp only at hid_data htype_data
  obtain ⟨count_str, hcount, hparsed⟩ := count_read hu h
  have htypekeys : ∀ c ∈ unit_type, KeyChar c := by
    rcases htype with rfl | rfl <;> decide
  have hraw : unit_type_of unit_type = unit_type := by
    rcases htype with rfl | rfl <;> rfl
  have hvalid : unit_id_fault unit_id = none := by
    have hne : unit_id ≠ [] := by
      rintro rfl
      exact absurd hid.1 (by decide)
    unfold unit_id_fault
    rw [if_neg hne, if_neg (not_not.mpr hid.1), if_neg]
    simpa using hid.2
  have hopens : UnitOpens p srv
      (pairStream func (unitPairs unit_id unit_type queue_names buffered_calls)) g unit_id
      (unit_type_of unit_type) buffered_calls.length g' := .intro
    (h.text_read hu (hid_data ▸ hidmem) (fun e he hname => hid_data ▸ (eq_of_unit_name he).1 hname)
      (decode_key (hex_keyChar hid.2) hid_data)) hvalid
    (h.text_read hu (htype_data ▸ htypemem)
      (fun e he hname => htype_data ▸ (eq_of_unit_name he).2 hname)
      (decode_key htypekeys htype_data))
    (hraw.symm ▸ hfresh) (hraw.symm ▸ hpersisted) hcount hparsed
  rwa [hraw] at hopens

/-- INTERNAL: a buffered call is found under its number. -/
theorem call_read {func : Bytes} (hu : Standard p.u)
    (h : Legible func (unitPairs unit_id unit_type queue_names buffered_calls)) {i : ℕ}
    {data : Bytes} (hdata : buffered_calls[i]? = some data) :
    extract_raw_param_from_frame p
      (pairStream func (unitPairs unit_id unit_type queue_names buffered_calls)) (call_name i) =
        some data := by
  have hmem : (call_name i, .ok data) ∈ unitPairs unit_id unit_type queue_names buffered_calls :=
    List.mem_append_right _ (List.mem_map.mpr
      ⟨(data, i), List.mem_zipIdx_iff_getElem?.mpr hdata, rfl⟩)
  refine h.raw_read hu hmem fun e he hname => ?_
  obtain ⟨data', hdata', heq⟩ := eq_of_call_name he hname
  rw [heq, Option.some.inj (hdata.symm.trans hdata')]

/-- A callable call selects its handler in any state. -/
theorem selects_of_callable {c : ShippedCall χ V} (h : c.Callable p srv) (g : χ) :
    Selects p srv c.bytes g c.handler g := by
  obtain ⟨func_desc, hentry⟩ := h.registered
  have hlookup : Eff.run (srv.lookup p (rstrip padding c.name)) g =
      (.ok (some (func_desc, c.handler)), g) := by
    unfold RfcServer.lookup
    rw [hentry]
    rfl
  exact .intro (buffered_name_of_call h.text h.no_nul h.not_blank h.serialized) hlookup

/-- The request carries the calls of its list, from any of them on. -/
theorem carries_of_request (hu : Standard p.u) {func : Bytes} {calls : List (ShippedCall χ V)}
    (hcalls : ∀ c ∈ calls, c.Callable p srv)
    (h : Legible func (unitPairs unit_id unit_type queue_names (calls.map ShippedCall.bytes))) :
    Carries p srv
      (pairStream func (unitPairs unit_id unit_type queue_names (calls.map ShippedCall.bytes))) 0
      (calls.map ShippedCall.handler) := by
  have hfrom : ∀ before after, calls = before ++ after →
      Carries p srv (pairStream func
        (unitPairs unit_id unit_type queue_names (calls.map ShippedCall.bytes)))
        before.length (after.map ShippedCall.handler) := by
    intro before after
    induction after generalizing before with
    | nil => exact fun _ => .nil _
    | cons c rest ih =>
      intro hsplit
      have hc : c ∈ calls := by
        rw [hsplit]
        exact List.mem_append_right _ List.mem_cons_self
      have hbytes : (calls.map ShippedCall.bytes)[before.length]? = some c.bytes := by
        rw [hsplit, List.getElem?_map, List.getElem?_append_right (Nat.le_refl _), Nat.sub_self]
        rfl
      have hrest := ih (before ++ [c]) (by rw [hsplit, List.append_assoc, List.singleton_append])
      rw [List.length_append, List.length_singleton] at hrest
      exact .cons (call_read hu h hbytes) (selects_of_callable (hcalls c hc))
        (hcalls c hc).synchronous hrest
  exact hfrom [] calls rfl

end Unit

/-- INTERNAL: the branch of the ship. -/
theorem dispatch_named_ship (p : Platform V) (srv : RfcServer χ V) (tlv : Bytes) :
    dispatch_named p srv tlv BGRFC_DEST_SHIP = dispatch_bgrfc_unit p srv tlv := by
  unfold dispatch_named
  rw [if_neg (by decide), if_neg (by decide), if_pos rfl]

/-- INTERNAL: the name that is shipped is in upper case. -/
theorem ship_keyChar : ∀ c ∈ BGRFC_DEST_SHIP, KeyChar c := by
  decide

/-- The handlers of a unit are called in the order of its calls, up to the first that fails;
the unit is confirmed and answered RFC_OK exactly when none fails. -/
theorem unit_delivered (p : Platform V) (srv : RfcServer χ V) (hu : Standard p.u)
    (unit_id unit_type : PyStr) (queue_names : List PyStr) (calls : List (ShippedCall χ V))
    {request : Bytes} (hrequest : build_bgrfc_request p.u unit_id unit_type queue_names
      (calls.map ShippedCall.bytes) = .ok request)
    (hcalls : ∀ c ∈ calls, c.Callable p srv) {g g₁ : χ}
    (htakes : Takes srv unit_id unit_type g g₁)
    (hcloses : ∀ g', Return (calls.map ShippedCall.handler) g₁ g' →
      Closes srv unit_id unit_type g') (l : List ServerEvent) :
    (∃ g', Return (calls.map ShippedCall.handler) g₁ g' ∧
      (Eff.run (dispatch_inbound p srv request) ⟨g, l⟩).1 = .ok build_rfc_ok_response ∧
      (Eff.run (dispatch_inbound p srv request) ⟨g, l⟩).2.events =
        l ++ (calls.map ShippedCall.handler).flatMap shipTrace ++
          [.confirmed unit_id unit_type]) ∨
    ∃ before h after g', calls.map ShippedCall.handler = before ++ h :: after ∧
      Return before g₁ g' ∧ Raises h g' ∧
      (Eff.run (dispatch_inbound p srv request) ⟨g, l⟩).1 ≠ .ok build_rfc_ok_response ∧
      (Eff.run (dispatch_inbound p srv request) ⟨g, l⟩).2.events =
        l ++ before.flatMap shipTrace ++ raiseTrace h := by
  obtain ⟨hid, htype, func, hfunc, hlegible, rfl⟩ := build_bgrfc_request_eq_ok hrequest
  have hname : read_func_name (strip_gw_header (pairStream func
      (unitPairs unit_id unit_type queue_names (calls.map ShippedCall.bytes)))) =
        .ok BGRFC_DEST_SHIP := by
    rw [strip_pairStream, hlegible.func_read, decode_key ship_keyChar hfunc]
  have hopens := opens_of_request hu hid htype hlegible htakes
  rw [List.length_map, ← List.length_map (f := ShippedCall.handler)] at hopens
  have hunit := run_unit_of_carries hopens (carries_of_request hu hcalls hlegible) hcloses l
  rw [run_dispatch_inbound_ok hname, strip_pairStream, dispatch_named_ship]
  exact hunit

/-! ## Two calls of one function -/

/-- INTERNAL: the ASCII tables are right. -/
theorem standard_ascii : Standard asciiTables where
  upper := by
    intro s h
    have hsame : ∀ c ∈ s, (if 97 ≤ c ∧ c ≤ 122 then c - 32 else c) = c := by
      intro c hc
      have hkey := h c hc
      unfold KeyChar at hkey
      exact if_neg (by omega)
    exact (List.map_congr_left hsame).trans (List.map_id' _)
  int := by
    intro n
    have hdigits : dec n ≠ [] ∧ (dec n).all (fun c => 48 ≤ c ∧ c ≤ 57) = true :=
      ⟨dec_ne_nil n, List.all_eq_true.mpr fun c hc => decide_eq_true (mem_dec hc)⟩
    have hvalue : (dec n).foldl (fun n c => 10 * n + (c - 48)) 0 = n := by
      have hfold := Nat.ofDigitChars_ten_toDigits (n := n)
      unfold dec lit
      rw [List.foldl_map, show toString n = n.repr from rfl, Nat.toList_repr]
      exact hfold
    show (if dec n ≠ [] ∧ (dec n).all (fun c => 48 ≤ c ∧ c ≤ 57) then _ else none) = _
    rw [if_pos hdigits, hvalue]

/-- A handler that returns nothing. -/
def quietHandler : Handler (Process Unit) Bytes := Handler.hosted ⟨7, false, fun _ => pure none⟩

/-- `Z_FM`, with parameters behind the name and without. -/
def twoCalls : List (ShippedCall (Process Unit) Bytes) :=
  [⟨lit "Z_FM", utf16 "Z_FM" ++ 0 :: 0 :: utf16 "A=1", quietHandler⟩,
    ⟨lit "Z_FM", utf16 "Z_FM", quietHandler⟩]

/-- INTERNAL: a new server takes any unit. -/
theorem takes_new (unit_id unit_type : PyStr) :
    ∃ g, Takes Residue.plainApp.server unit_id unit_type (newWorld ()).user g := by
  refine ⟨_, (newWorld ()).user, ?_, rfl⟩
  rfl

/-- INTERNAL: whatever the state, a server without callbacks closes a unit. -/
theorem closes_plain (unit_id unit_type : PyStr) (g : Process Unit) :
    Closes Residue.plainApp.server unit_id unit_type g where
  commit _ _ h _ := absurd h (Option.some_ne_none _).symm
  confirms := rfl
  told _ _ h _ := absurd h (Option.some_ne_none _).symm

/-- INTERNAL: both calls can be made. -/
theorem callable_two_calls :
    ∀ c ∈ twoCalls, c.Callable plainPlatform Residue.plainApp.server := by
  have hnamed : encodeUtf16le (lit "Z_FM") = .ok (utf16 "Z_FM") := by decide
  have hcallable : ∀ b, CallBytes (lit "Z_FM") b →
      (ShippedCall.mk (lit "Z_FM") b quietHandler).Callable plainPlatform
        Residue.plainApp.server := fun b hb =>
    ⟨show IsText (lit "Z_FM") by unfold IsText; decide, show 0 ∉ lit "Z_FM" by decide,
      show rstrip padding (lit "Z_FM") ≠ [] by decide, hb, ⟨none, rfl⟩, rfl⟩
  intro c hc
  rcases List.mem_pair.mp hc with rfl | rfl
  · exact hcallable _ (.payload hnamed _)
  · exact hcallable _ (.bare hnamed)

/-- INTERNAL: the handler does not raise. -/
theorem quiet_of_mem {h : Handler (Process Unit) Bytes}
    (hmem : h ∈ twoCalls.map ShippedCall.handler) (g : Process Unit) : ¬ Raises h g := by
  obtain rfl : h = quietHandler := by
    rcases List.mem_pair.mp hmem with rfl | rfl <;> rfl
  rintro ⟨e, g', hraised⟩
  cases hraised

/-- The request of that unit. -/
def twoCallsRequest : Bytes :=
  pairStream (utf16 "BGRFC_DEST_SHIP")
    (unitPairs (lit "0123456789ABCDEF0123456789ABCDEF") (lit "Q") [lit "INBOUND"]
      (twoCalls.map ShippedCall.bytes))

theorem unit_of_two_calls :
    (Eff.run (dispatch_inbound plainPlatform Residue.plainApp.server twoCallsRequest)
        ⟨(newWorld ()).user, []⟩).1 = .ok build_rfc_ok_response ∧
      (Eff.run (dispatch_inbound plainPlatform Residue.plainApp.server twoCallsRequest)
        ⟨(newWorld ()).user, []⟩).2.events =
        [.selected 7, .called 7, .completed 7, .selected 7, .called 7, .completed 7,
          .confirmed (lit "0123456789ABCDEF0123456789ABCDEF") (lit "Q")] := by
  have hrequest : build_bgrfc_request plainPlatform.u (lit "0123456789ABCDEF0123456789ABCDEF")
      (lit "Q") [lit "INBOUND"] (twoCalls.map ShippedCall.bytes) = .ok twoCallsRequest := by
    decide +kernel
  obtain ⟨g₁, htakes⟩ := takes_new (lit "0123456789ABCDEF0123456789ABCDEF") (lit "Q")
  rcases unit_delivered plainPlatform Residue.plainApp.server standard_ascii _ _ _ twoCalls hrequest
    callable_two_calls htakes (fun g' _ => closes_plain _ _ g') [] with
    ⟨g', -, hanswer, hevents⟩ | ⟨before, h, after, g', hsplit, -, hraised, -⟩
  · refine ⟨hanswer, ?_⟩
    rw [hevents]
    rfl
  · refine absurd hraised (quiet_of_mem ?_ g')
    rw [hsplit]
    exact List.mem_append_right _ List.mem_cons_self

/-- An application that registers a function under a name with a trailing blank. -/
def blankApp : App Unit Bytes :=
  .functions [(asciiTables.upper (lit "Z_FM "), (none, ⟨7, false, fun _ => pure none⟩))]

/-- The request of a unit with one call of `Z_FM `. -/
def blankRequest : Bytes :=
  pairStream (utf16 "BGRFC_DEST_SHIP")
    (unitPairs (lit "0123456789ABCDEF0123456789ABCDEF") (lit "T") [] [utf16 "Z_FM "])

/-- A handler that is registered under the name of its call as it stands: the server looks
for the name without its trailing blank, and the handler is not called. -/
theorem padded_name_not_called :
    build_bgrfc_request asciiTables (lit "0123456789ABCDEF0123456789ABCDEF") (lit "T") []
        [utf16 "Z_FM "] = .ok blankRequest ∧
      buffer_call (lit "Z_FM ") [] = .ok (utf16 "Z_FM ") ∧
      assocGet blankApp.server.registry (plainPlatform.u.upper (lit "Z_FM ")) =
        some (none, quietHandler) ∧
      ¬ Raises quietHandler (newWorld ()).user ∧
      (Eff.run (dispatch_inbound plainPlatform blankApp.server blankRequest)
        (newWorld ())).2.events = [] ∧
      (Eff.run (dispatch_inbound plainPlatform blankApp.server blankRequest) (newWorld ())).1 ≠
        .ok build_rfc_ok_response := by
  refine ⟨?_, ?_, ?_, ?_, ?_, ?_⟩
  · decide +kernel
  · decide +kernel
  · rfl
  · rintro ⟨e, g', hraised⟩
    cases hraised
  · decide +kernel
  · decide +kernel

end SapRfc.Analysis.UnitDelivery
