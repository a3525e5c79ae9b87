import SapRfc.Program.Walkers

/-!
# The record walkers agree

Each walker goes along the records that were written, one by one, and makes of them what it
would make of the list.  `Session._parse_tlv` does so as long as no value needs the four-byte
length: it takes the `0xFFFF` before that length for a length, and reads on inside the value.
-/

set_option autoImplicit false

namespace SapRfc.Analysis.WalkersAgree

open SapRfc.Library SapRfc.Library.Records SapRfc.Program

/-! ## The walkers are the readers of the other modules -/

section Readers

/-- INTERNAL: a walker that notes every record. -/
theorem along_collect {b : Bytes} {w : Walker Tags PyError Tags}
    (hvisit : ∀ out s, w.visit out s = .ok (.inl (out ++ [(s.tag, s.value b)]))) (ending : Turn)
    (spans : List Span) : ∀ out,
      w.along ending spans out =
        (spans, w.finish (out ++ spans.map fun s => (s.tag, s.value b)) ending) := by
  induction spans with
  | nil =>
    intro out
    unfold Walker.along
    rw [List.map_nil, List.append_nil]
  | cons s rest ih =>
    intro out
    unfold Walker.along
    rw [hvisit]
    simp only
    rw [ih, List.map_cons, List.append_assoc, List.singleton_append]

/-- The walk of `_parse_tlv_stream`. -/
theorem tlv_stream_walker_eq (data : Bytes) :
    (walk_from (tlv_stream_walker data) data.length 0 []).2 = parse_tlv_stream data := by
  have hloop := (tlv_stream_walker data).loop_eq_along_fixed (readAt Tag.TERMINATOR data)
    (Span.next data) (fun _ _ => rfl) (fun _ _ => rfl)
    (data.length + 1) 0 []
  have hwalk := walk_eq_chain Tag.TERMINATOR data
  unfold walk_from
  rw [hloop, along_collect (b := data) (fun _ _ => rfl), List.nil_append]
  unfold parse_tlv_stream
  rw [hwalk]
  simp only [tlv_stream_walker]
  cases (chain (readAt Tag.TERMINATOR data) (Span.next data) (data.length + 1) 0).2 <;> rfl

/-- The walk of `tlv_stream_status`. -/
theorem along_count {w : Walker ℕ PyError TlvStatus}
    (hvisit : ∀ n s, w.visit n s = .ok (.inl (n + 1))) (ending : Turn) (spans : List Span) :
    ∀ n, w.along ending spans n = (spans, w.finish (n + spans.length) ending) := by
  induction spans with
  | nil => exact fun n => rfl
  | cons s rest ih =>
    intro n
    unfold Walker.along
    rw [hvisit]
    simp only
    rw [ih, List.length_cons, Nat.add_assoc, Nat.add_comm 1]

theorem status_walker_eq (tlv : Bytes) :
    (walk_from (status_walker tlv) tlv.length 0 0).2 = .ok (tlv_stream_status tlv) := by
  have hloop := (status_walker tlv).loop_eq_along_fixed (readAt Tag.TERMINATOR tlv)
    (Span.next tlv) (fun _ _ => rfl) (fun _ _ => rfl)
    (tlv.length + 1) 0 0
  have hwalk := walk_eq_chain Tag.TERMINATOR tlv
  unfold walk_from
  rw [hloop, along_count (fun _ _ => rfl), Nat.zero_add]
  unfold tlv_stream_status
  rw [hwalk]
  cases (chain (readAt Tag.TERMINATOR tlv) (Span.next tlv) (tlv.length + 1) 0).1 with
  | nil =>
    cases (chain (readAt Tag.TERMINATOR tlv) (Span.next tlv) (tlv.length + 1) 0).2 <;> rfl
  | cons s rest =>
    cases (chain (readAt Tag.TERMINATOR tlv) (Span.next tlv) (tlv.length + 1) 0).2 <;> rfl

variable {V : Type}

/-- INTERNAL: the visits of the pair walker are its fold. -/
theorem along_pairs (codec : Codec V) (names : List (ℕ × PyStr)) (data : Bytes) (ending : Turn)
    (spans : List Span) : ∀ s,
      ((pairs_walker codec names data).along ending spans s).2 =
        (do
          let s ← (spans.map fun s => (s.tag, s.value data)).foldlM (pair_record codec names) s
          (pairs_walker codec names data).finish s ending) := by
  induction spans with
  | nil => exact fun _ => rfl
  | cons span rest ih =>
    intro s
    unfold Walker.along
    rw [List.map_cons, List.foldlM_cons]
    simp only [pairs_walker]
    cases pair_record codec names s (span.tag, span.value data) with
    | error e => rfl
    | ok s' => exact ih s'

/-- The walk of `_extract_name_value_pairs`. -/
theorem pairs_walker_eq (codec : Codec V) (names : List (ℕ × PyStr)) (data : Bytes) :
    (walk_from (pairs_walker codec names data) data.length 0 PairState.init).2 =
      extract_named_values codec data names := by
  have hloop := (pairs_walker codec names data).loop_eq_along_fixed
    (readAt Tag.TERMINATOR data) (Span.next data) (fun _ _ => rfl) (fun _ _ => rfl)
    (data.length + 1) 0 PairState.init
  have hwalk := walk_eq_chain Tag.TERMINATOR data
  unfold walk_from
  rw [hloop, along_pairs]
  unfold extract_named_values
  rw [hwalk]
  simp only [pairs_walker]
  cases (chain (readAt Tag.TERMINATOR data) (Span.next data) (data.length + 1) 0).2 <;> rfl

/-- INTERNAL: the visits of the search are its recursion. -/
theorem along_raw_param (p : Platform V) (tlv : Bytes) (param_name : PyStr) (ending : Turn)
    (spans : List Span) : ∀ name,
      ((raw_param_walker p tlv param_name).along ending spans name).2 =
        .ok (find_raw_param p (p.u.upper param_name) name
          (spans.map fun s => (s.tag, s.value tlv))) := by
  induction spans with
  | nil => exact fun _ => rfl
  | cons s rest ih =>
    intro name
    unfold Walker.along
    rw [List.map_cons]
    unfold find_raw_param
    simp only [raw_param_walker] at ih ⊢
    by_cases hname : s.tag = Tag.PARAM_NAME
    · rw [if_pos hname, if_pos hname]
      exact ih _
    · rw [if_neg hname, if_neg hname]
      by_cases hvalue : s.tag = Tag.PARAM_VALUE
      · rw [if_pos hvalue, if_pos hvalue]
        cases name with
        | none => exact ih none
        | some current =>
          simp only
          by_cases hkey : p.u.upper current = p.u.upper param_name
          · rw [if_pos hkey, if_pos hkey]
          · rw [if_neg hkey, if_neg hkey]
            exact ih none
      · rw [if_neg hvalue, if_neg hvalue]
        exact ih name

/-- The walk of `_extract_raw_param_from_frame`. -/
theorem raw_param_walker_eq (p : Platform V) (tlv : Bytes) (param_name : PyStr) :
    (walk_from (raw_param_walker p tlv param_name) tlv.length 0 none).2 =
      .ok (extract_raw_param_from_frame p tlv param_name) := by
  have hloop := (raw_param_walker p tlv param_name).loop_eq_along_fixed
    (readAt Tag.TERMINATOR tlv) (Span.next tlv) (fun _ _ => rfl) (fun _ _ => rfl)
    (tlv.length + 1) 0 none
  have hwalk := walk_eq_chain Tag.TERMINATOR tlv
  unfold walk_from
  rw [hloop, along_raw_param]
  unfold extract_raw_param_from_frame
  rw [hwalk]

/-- INTERNAL: the loop of `Session._parse_tlv` on a suffix. -/
theorem session_loop_eq (payload : Bytes) (fuel : ℕ) : ∀ pos out,
    ((session_walker payload).loop fuel pos out).2 =
      (session_tlv_loop fuel (payload.drop pos)).map (out ++ ·) := by
  induction fuel with
  | zero =>
    intro pos out
    show Except.ok out = .ok (out ++ [])
    rw [List.append_nil]
  | succ fuel ih =>
    intro pos out
    have htag : ofBE ((payload.drop pos).take 2) = numberAt payload pos 2 :=
      (numberAt_drop payload pos 0 2).symm
    have hfield : ofBE (((payload.drop pos).drop 2).take 2) = numberAt payload (pos + 2) 2 :=
      (numberAt_drop payload pos 2 2).symm
    have hread : (session_walker payload).read out pos = session_read payload pos := rfl
    unfold Walker.loop session_tlv_loop
    rw [hread, htag, hfield, List.length_drop]
    unfold session_read
    by_cases h4 : payload.length < pos + 4
    · have h4' : payload.length - pos < 4 := by omega
      rw [if_pos h4, if_pos h4']
      show Except.ok out = .ok (out ++ [])
      rw [List.append_nil]
    · have h4' : ¬ payload.length - pos < 4 := by omega
      rw [if_neg h4, if_neg h4']
      simp only
      by_cases hlast : numberAt payload pos 2 = Tag.TERMINATOR
      · rw [if_pos hlast, if_pos hlast]
        show Except.ok out = .ok (out ++ [])
        rw [List.append_nil]
      · rw [if_neg hlast, if_neg hlast, List.drop_drop, List.length_drop]
        by_cases hend : payload.length < pos + 4 + numberAt payload (pos + 2) 2
        · have hend' : payload.length - (pos + 4) < numberAt payload (pos + 2) 2 := by omega
          rw [if_pos hend, if_pos hend']
          rfl
        · have hend' : ¬ payload.length - (pos + 4) < numberAt payload (pos + 2) 2 := by omega
          rw [if_neg hend, if_neg hend']
          have hclose := skipClose_drop payload
            ⟨numberAt payload pos 2, pos + 4, numberAt payload (pos + 2) 2⟩
          have hstop : Span.stop
              ⟨numberAt payload pos 2, pos + 4, numberAt payload (pos + 2) 2⟩ =
                pos + 4 + numberAt payload (pos + 2) 2 := rfl
          rw [hstop] at hclose
          rw [List.drop_drop, hclose]
          show ((session_walker payload).loop fuel (Span.next payload _) (out ++ [_])).2 = _
          rw [ih]
          cases session_tlv_loop fuel (payload.drop (Span.next payload
              ⟨numberAt payload pos 2, pos + 4, numberAt payload (pos + 2) 2⟩)) with
          | error e => rfl
          | ok rest =>
            have hvalue : (payload.drop (pos + 4)).take (numberAt payload (pos + 2) 2) =
                Span.value payload
                  ⟨numberAt payload pos 2, pos + 4, numberAt payload (pos + 2) 2⟩ := by
              unfold Span.value slice
              rw [hstop, Nat.add_sub_cancel_left]
            rw [hvalue]
            show Except.ok ((out ++ [_]) ++ rest) = Except.ok (out ++ (_ :: rest))
            rw [List.append_assoc, List.singleton_append]

/-- The walk of `Session._parse_tlv`. -/
theorem session_walker_eq (payload : Bytes) :
    (walk_from (session_walker payload) payload.length 0 []).2 = session_parse_tlv payload := by
  unfold walk_from
  rw [session_loop_eq]
  unfold session_parse_tlv
  rw [List.drop_zero]
  cases session_tlv_loop (payload.length + 1) payload <;> rfl

/-- INTERNAL: one turn of `redact`. -/
theorem redact_turn_read (out : Bytes) (pos : ℕ) :
    redact_turn out pos =
      match readAt 0xFFFF out pos with
      | .record s =>
        some (if s.tag = TAG_PASSWORD then zeroFill out s.start s.length else out,
          Span.next (if s.tag = TAG_PASSWORD then zeroFill out s.start s.length else out) s)
      | _ => none := by
  have hvalue : ∀ tag start length left extended,
      redact_value out tag start length =
        match (if out.length < start + length then Turn.overrun tag extended length left
          else .record ⟨tag, start, length⟩ : Turn) with
        | .record s =>
          some (if s.tag = TAG_PASSWORD then zeroFill out s.start s.length else out,
            Span.next (if s.tag = TAG_PASSWORD then zeroFill out s.start s.length else out) s)
        | _ => none := by
    intro tag start length left extended
    unfold redact_value
    by_cases hend : out.length < start + length
    · rw [if_pos hend, if_pos hend]
    · rw [if_neg hend, if_neg hend]
      rfl
  unfold redact_turn readAt
  by_cases h4 : out.length < pos + 4
  · rw [if_pos h4, if_pos h4]
  · rw [if_neg h4, if_neg h4]
    simp only
    show (if numberAt out pos 2 = 0xFFFF then _ else _ : Option (Bytes × ℕ)) = _
    by_cases hlast : numberAt out pos 2 = 0xFFFF
    · rw [if_pos hlast, if_pos hlast]
    · rw [if_neg hlast, if_neg hlast]
      show (if numberAt out (pos + 2) 2 = 0xFFFF then _ else _ : Option (Bytes × ℕ)) = _
      by_cases hext : numberAt out (pos + 2) 2 = 0xFFFF
      · rw [if_pos hext, if_pos hext]
        by_cases h8 : out.length < pos + 4 + 4
        · rw [if_pos h8, if_pos h8]
        · rw [if_neg h8, if_neg h8]
          exact hvalue _ _ _ _ _
      · rw [if_neg hext, if_neg hext]
        exact hvalue _ _ _ _ _

theorem redact_loop_walker (fuel : ℕ) : ∀ pos out,
    (redact_walker.loop fuel pos out).2 = .ok (redact_loop fuel out pos) := by
  induction fuel with
  | zero => exact fun _ _ => rfl
  | succ fuel ih =>
    intro pos out
    unfold Walker.loop redact_loop
    rw [redact_turn_read]
    simp only [redact_walker] at ih ⊢
    cases readAt 0xFFFF out pos with
    | record s => exact ih _ _
    | _ => rfl

/-- The walk of `redact`. -/
theorem redact_walker_eq (payload : Bytes) :
    (walk_from redact_walker payload.length (body_at payload) payload).2 = .ok (redact payload) :=
  redact_loop_walker _ _ _

end Readers

/-! ## Written streams -/

section Written

variable {rs : List (ℕ × Bytes)} {data : Bytes}

/-- SOURCE: invoke.py:238-254.  What `tlv_record` writes. -/
theorem write_stream_eq (h : write_stream rs = .ok data) :
    data = stream Tag.TERMINATOR rs ∧ ∀ r ∈ rs, r.1 < 256 ^ 2 ∧ r.2.length < 256 ^ 4 := by
  obtain ⟨values, hvalues, hfit, hdata⟩ := write_records_eq_ok h
  have hlist : values = rs ++ [(Tag.TERMINATOR, [])] := by
    have hinj : Function.Injective fun r : ℕ × Bytes =>
        (r.1, (.ok r.2 : Except PyError Bytes)) := by
      rintro ⟨t, v⟩ ⟨t', v'⟩ heq
      obtain ⟨htag, hvalue⟩ := Prod.mk.inj heq
      exact Prod.ext htag (Except.ok.inj hvalue)
    refine (List.map_injective_iff.mpr hinj ?_).symm
    rw [← hvalues, List.map_append]
    rfl
  subst hlist
  refine ⟨?_, fun r hr => hfit r (List.mem_append_left _ hr)⟩
  rw [hdata, List.flatMap_append]
  rfl

theorem length_le_stream (rs : List (ℕ × Bytes)) :
    rs.length ≤ (stream Tag.TERMINATOR rs).length := by
  induction rs with
  | nil => exact Nat.zero_le _
  | cons r rs ih =>
    have hrecord := length_encode r.1 r.2
    rw [stream_cons, List.length_append, List.length_cons]
    omega

variable (hrs : ∀ r ∈ rs, Fits Tag.TERMINATOR r)

include hrs in
/-- A walker over the bytes of a written stream goes along its records. -/
theorem walk_written {σ ρ : Type} (w : Walker σ PyError ρ)
    (hdata : data = stream Tag.TERMINATOR rs)
    (hread : ∀ s pos, w.read s pos = readAt Tag.TERMINATOR data pos)
    (hnext : ∀ s span, w.next s span = Span.next data span) (s : σ) :
    walk_from w data.length 0 s = w.along .terminator (spansOf 0 rs) s := by
  have hlen := length_le_stream rs
  have hchain : chain (readAt Tag.TERMINATOR data) (Span.next data) (data.length + 1) 0 =
      (spansOf 0 rs, .terminator) :=
    chain_stream (by decide) hrs (by rw [hdata]; omega) (Nat.zero_le _)
      (by rw [hdata, List.drop_zero])
  have hloop := w.loop_eq_along_fixed (readAt Tag.TERMINATOR data) (Span.next data) hread hnext
    (data.length + 1) 0 s
  rw [hchain] at hloop
  exact hloop

/-! ## The blanked stream -/

/-- What `redact` makes of a record. -/
def blank_record (r : ℕ × Bytes) : ℕ × Bytes :=
  if r.1 = TAG_PASSWORD then (r.1, List.replicate r.2.length 0) else r

theorem zeroFill_middle (a v c : Bytes) :
    zeroFill (a ++ (v ++ c)) a.length v.length = a ++ (List.replicate v.length 0 ++ c) := by
  unfold zeroFill
  rw [List.take_left, List.append_assoc, List.length_append, Nat.add_sub_cancel_left,
    List.length_append, Nat.min_eq_left (Nat.le_add_right _ _), List.drop_length_add_append,
    List.drop_left]

/-- INTERNAL: a record between its header and its closing tag. -/
theorem encode_parts (tag : ℕ) (value : Bytes) :
    ∃ header : Bytes, header.length = (if 0xFFFF ≤ value.length then 8 else 4) ∧
      ∀ v : Bytes, v.length = value.length → encode tag v = header ++ (v ++ toBE 2 tag) := by
  by_cases hlong : 0xFFFF ≤ value.length
  · refine ⟨toBE 2 tag ++ [0xFF, 0xFF] ++ toBE 4 value.length, ?_, fun v hv => ?_⟩
    · rw [if_pos hlong]
      simp
    · unfold encode
      rw [hv, if_pos hlong]
      simp only [List.append_assoc]
  · refine ⟨toBE 2 tag ++ toBE 2 value.length, ?_, fun v hv => ?_⟩
    · rw [if_neg hlong]
      simp
    · unfold encode
      rw [hv, if_neg hlong]
      simp only [List.append_assoc]

/-- INTERNAL: one record is blanked in its place. -/
theorem blank_encode (before after : Bytes) (r : ℕ × Bytes) :
    (if r.1 = TAG_PASSWORD then
        zeroFill (before ++ (encode r.1 r.2 ++ after))
          (before.length + (if 0xFFFF ≤ r.2.length then 8 else 4)) r.2.length
      else before ++ (encode r.1 r.2 ++ after)) =
      before ++ (encode (blank_record r).1 (blank_record r).2 ++ after) := by
  unfold blank_record
  by_cases htag : r.1 = TAG_PASSWORD
  · rw [if_pos htag, if_pos htag]
    obtain ⟨header, hheader, hencode⟩ := encode_parts r.1 r.2
    simp only
    rw [hencode r.2 rfl, hencode _ (List.length_replicate), ← hheader, ← List.length_append]
    have hfill := zeroFill_middle (before ++ header) r.2 (toBE 2 r.1 ++ after)
    simp only [List.append_assoc] at hfill ⊢
    exact hfill
  · rw [if_neg htag, if_neg htag]

theorem length_encode_blank (r : ℕ × Bytes) :
    (encode (blank_record r).1 (blank_record r).2).length = (encode r.1 r.2).length := by
  obtain ⟨header, _, hencode⟩ := encode_parts r.1 r.2
  unfold blank_record
  by_cases htag : r.1 = TAG_PASSWORD
  · rw [if_pos htag, hencode _ (List.length_replicate), hencode r.2 rfl]
    simp only [List.length_append, List.length_replicate]
  · rw [if_neg htag]

/-- The visits of `redact`, one behind the other. -/
theorem along_redact (rs : List (ℕ × Bytes)) : ∀ before : Bytes,
    redact_walker.along .terminator (spansOf before.length rs)
        (before ++ stream Tag.TERMINATOR rs) =
      (spansOf before.length rs,
        .ok (before ++ stream Tag.TERMINATOR (rs.map blank_record))) := by
  induction rs with
  | nil => exact fun _ => rfl
  | cons r rs ih =>
    intro before
    rw [List.map_cons, stream_cons, stream_cons]
    unfold spansOf Walker.along
    simp only [redact_walker] at ih ⊢
    rw [blank_encode]
    have hrest := ih (before ++ encode (blank_record r).1 (blank_record r).2)
    rw [List.length_append, length_encode_blank, List.append_assoc, List.append_assoc] at hrest
    rw [hrest]

variable (hrs : ∀ r ∈ rs, Fits Tag.TERMINATOR r)

include hrs in
/-- `redact` reads the headers from the bytes it blanks, and blanks nothing that it still reads. -/
theorem redact_written (hdata : data = stream Tag.TERMINATOR rs) (hbody : body_at data = 0) :
    walk_from redact_walker data.length (body_at data) data =
      (spansOf 0 rs, .ok (stream Tag.TERMINATOR (rs.map blank_record))) := by
  have hlen := length_le_stream rs
  have hchain : chain (readAt Tag.TERMINATOR data) (Span.next data) (data.length + 1) 0 =
      (spansOf 0 rs, .terminator) :=
    chain_stream (by decide) hrs (by rw [hdata]; omega) (Nat.zero_le _)
      (by rw [hdata, List.drop_zero])
  have hloop := redact_walker.loop_eq_along (readAt Tag.TERMINATOR data) (Span.next data)
    (fun out pos => out.length = data.length ∧ ∀ i, pos ≤ i → out[i]? = data[i]?)
    (fun out pos h => readAt_congr h.1 h.2) ?_ (data.length + 1) 0 data ⟨rfl, fun _ _ => rfl⟩
  · have hblank := along_redact rs []
    rw [hchain] at hloop
    unfold walk_from
    rw [hbody, hloop]
    rw [hdata]
    exact hblank
  · rintro out out' pos span ⟨hsize, hsame⟩ hread hvisit
    have hout : (if span.tag = TAG_PASSWORD then zeroFill out span.start span.length else out) =
        out' := Sum.inl.inj (Except.ok.inj hvisit)
    have hstart := (start_of_readAt hread).1
    have hlater : ∀ i, span.stop ≤ i → out'[i]? = data[i]? := by
      intro i hi
      have hpos : pos ≤ i := by
        unfold Span.stop at hi
        omega
      rw [← hsame i hpos, ← hout]
      split
      · rw [getElem?_zeroFill, if_neg]
        unfold Span.stop at hi
        omega
      · rfl
    have hsize' : out'.length = data.length := by
      rw [← hsize, ← hout]
      split
      · exact length_zeroFill _ _ _
      · rfl
    have hnext : Span.next out' span = Span.next data span :=
      next_congr hsize' fun i hi _ => hlater i hi
    have hle := le_next (b := data) span
    exact ⟨hnext, hsize', fun i hi => hlater i (hle.trans hi)⟩

/-- INTERNAL: no gateway header is taken for one where the first tag begins otherwise. -/
theorem body_at_written (hdata : data = stream Tag.TERMINATOR rs)
    (htags : ∀ r ∈ rs, r.1 < 256 ^ 2) (first : ∀ r ∈ rs.head?, r.1 / 256 ≠ 0x06) :
    body_at data = 0 := by
  have hhead : ∀ tag : ℕ, tag < 256 ^ 2 → tag / 256 ≠ 0x06 → ∀ rest : Bytes,
      (toBE 2 tag ++ rest).take 1 ≠ [0x06] := by
    intro tag htag hne rest hsix
    have hbyte : UInt8.ofNat (tag / 256) = 6 := (List.cons.inj hsix).1
    have hnat := congrArg UInt8.toNat hbyte
    rw [UInt8.toNat_ofNat'] at hnat
    have hsmall : tag / 256 < 2 ^ 8 := by omega
    rw [Nat.mod_eq_of_lt hsmall] at hnat
    exact hne hnat
  have hencode : ∀ tag value, ∃ rest, encode tag value = toBE 2 tag ++ rest := by
    intro tag value
    unfold encode
    split
    · exact ⟨[0xFF, 0xFF] ++ toBE 4 value.length ++ value ++ toBE 2 tag, by
        simp only [List.append_assoc]⟩
    · exact ⟨toBE 2 value.length ++ value ++ toBE 2 tag, by simp only [List.append_assoc]⟩
  unfold body_at
  refine if_neg fun hboth => ?_
  cases rs with
  | nil =>
    rw [hdata] at hboth
    exact absurd hboth.1 (by decide)
  | cons r rs =>
    obtain ⟨rest, hrest⟩ := hencode r.1 r.2
    rw [hdata, stream_cons, hrest, List.append_assoc] at hboth
    exact hhead r.1 (htags r List.mem_cons_self) (first r rfl) _ hboth.1

/-! ## `Session._parse_tlv` -/

/-- A length field that is a length is read alike. -/
theorem session_read_eq {pos : ℕ} (h : numberAt data (pos + 2) 2 ≠ 0xFFFF) :
    session_read data pos = readAt Tag.TERMINATOR data pos := by
  unfold session_read readAt
  simp only [if_neg h]

include hrs in
/-- INTERNAL: `Session._parse_tlv` comes through the records up to the first long one, and
not through that one. -/
theorem session_chain_stream : ∀ {fuel pos : ℕ}, rs.length < fuel → pos ≤ data.length →
    data.drop pos = stream Tag.TERMINATOR rs →
      ((∀ r ∈ rs, r.2.length < 0xFFFF) →
        chain (session_read data) (Span.next data) fuel pos = (spansOf pos rs, .terminator)) ∧
      ((chain (session_read data) (Span.next data) fuel pos).1 = spansOf pos rs →
        ∀ r ∈ rs, r.2.length < 0xFFFF) := by
  induction rs with
  | nil =>
    intro fuel pos hfuel hpos hb
    refine ⟨fun _ => ?_, fun _ => nofun⟩
    obtain ⟨fuel, rfl⟩ := Nat.exists_eq_succ_of_ne_zero (Nat.ne_of_gt hfuel)
    have hsix := length_stream_ge Tag.TERMINATOR []
    have hlen := congrArg List.length hb
    rw [List.length_drop] at hlen
    have htag : numberAt data pos 2 = Tag.TERMINATOR := by
      have hdrop := numberAt_drop data pos 0 2
      rw [hb] at hdrop
      exact hdrop
    unfold chain session_read
    rw [if_neg (by omega)]
    simp only [if_pos htag]
    rfl
  | cons r rs ih =>
    intro fuel pos hfuel hpos hb
    obtain ⟨fuel, rfl⟩ := Nat.exists_eq_succ_of_ne_zero (Nat.ne_of_gt (Nat.lt_of_le_of_lt
      (Nat.zero_le _) hfuel))
    rw [List.length_cons] at hfuel
    rw [stream_cons] at hb
    have hr := hrs r List.mem_cons_self
    have hlen := congrArg List.length hb
    rw [List.length_drop, List.length_append] at hlen
    have hrest : data.drop (pos + (encode r.1 r.2).length) = stream Tag.TERMINATOR rs := by
      rw [← List.drop_drop, hb, List.drop_left]
    have hsix := length_stream_ge Tag.TERMINATOR rs
    have hfield := numberAt_field hb
    obtain ⟨hsame, hshort⟩ := ih (fun q hq => hrs q (List.mem_cons_of_mem r hq))
      (by omega : rs.length < fuel) (by omega) hrest
    by_cases hlong : 0xFFFF ≤ r.2.length
    · refine ⟨fun hall => ?_, fun hspans => ?_⟩
      · have hlt := hall r List.mem_cons_self
        omega
      · -- the value that is read starts where the four-byte length does
        rw [if_pos hlong] at hfield
        unfold chain spansOf at hspans
        cases hread : session_read data pos with
        | record s =>
          rw [hread] at hspans
          have hspan := (List.cons.inj hspans).1
          have hstart : s.start = pos + 4 := by
            unfold session_read at hread
            rw [if_neg (by omega)] at hread
            simp only at hread
            split_ifs at hread
            exact congrArg Span.start (Turn.record.inj hread).symm
          rw [hspan, if_pos hlong] at hstart
          simp only at hstart
          omega
        | _ =>
          rw [hread] at hspans
          cases hspans
    · rw [if_neg hlong] at hfield
      have hread : session_read data pos =
          .record ⟨r.1, pos + (if 0xFFFF ≤ r.2.length then 8 else 4), r.2.length⟩ := by
        rw [session_read_eq (by rw [hfield]; omega), readAt_encode hr hb]
      unfold chain
      rw [hread]
      simp only
      rw [next_encode hr hb hpos]
      constructor
      · intro hall
        rw [hsame fun q hq => hall q (List.mem_cons_of_mem r hq)]
        rfl
      · intro hspans q hq
        cases List.mem_cons.mp hq with
        | inl hqr =>
          rw [hqr]
          omega
        | inr hmem => exact hshort (List.cons.inj hspans).2 q hmem

include hrs in
theorem session_written_iff (hdata : data = stream Tag.TERMINATOR rs) :
    walk_from (session_walker data) data.length 0 [] = (spansOf 0 rs, .ok rs) ↔
      ∀ r ∈ rs, r.2.length < 0xFFFF := by
  have hlen := length_le_stream rs
  have hdrop : data.drop 0 = stream Tag.TERMINATOR rs := by
    rw [hdata, List.drop_zero]
  have hfuel : rs.length < data.length + 1 := by
    rw [hdata]
    omega
  obtain ⟨hsame, hshort⟩ := session_chain_stream hrs hfuel (Nat.zero_le _) hdrop
  have hloop := (session_walker data).loop_eq_along_fixed (session_read data) (Span.next data)
    (fun _ _ => rfl) (fun _ _ => rfl) (data.length + 1) 0 []
  unfold walk_from
  rw [hloop, along_collect (b := data) (fun _ _ => rfl), List.nil_append]
  constructor
  · exact fun heq => hshort (Prod.mk.inj heq).1
  · intro hall
    rw [hsame hall, values_spansOf hrs hdrop]
    rfl

end Written

/-! ## All six -/

/-- What `_extract_name_value_pairs` makes of a list of records. -/
def named_values {V : Type} (codec : Codec V) (names : List (ℕ × PyStr)) (rs : List (ℕ × Bytes)) :
    Except PyError NamedValues := do
  let s ← rs.foldlM (pair_record codec names) PairState.init
  let pairs ← s.flushed codec
  .ok {
    pairs := pairs
    basxml := s.basxml_chunks.map fun e => (e.1, e.2.flatten)
    row_counts := s.row_counts }

/-- Each walker comes through the records, one by one, up to where it returns, and its result is
what its own rule makes of the list. -/
structure Agree (rs : List (ℕ × Bytes)) (data : Bytes) : Prop where
  session : walk_from (session_walker data) data.length 0 [] = (spansOf 0 rs, .ok rs)
  tlv_stream : walk_from (tlv_stream_walker data) data.length 0 [] = (spansOf 0 rs, .ok rs)
  status : walk_from (status_walker data) data.length 0 0 = (spansOf 0 rs, .ok .complete)
  redact : walk_from redact_walker data.length (body_at data) data =
    (spansOf 0 rs, .ok (stream Tag.TERMINATOR (rs.map blank_record)))
  pairs : ∀ (V : Type) (codec : Codec V) (names : List (ℕ × PyStr)),
    walk_from (pairs_walker codec names data) data.length 0 PairState.init =
        (pairs_walker codec names data).along .terminator (spansOf 0 rs) PairState.init ∧
      (walk_from (pairs_walker codec names data) data.length 0 PairState.init).2 =
        named_values codec names rs
  raw_param : ∀ (V : Type) (p : Platform V) (param_name : PyStr),
    walk_from (raw_param_walker p data param_name) data.length 0 none =
        (raw_param_walker p data param_name).along .terminator (spansOf 0 rs) none ∧
      (walk_from (raw_param_walker p data param_name) data.length 0 none).2 =
        .ok (find_raw_param p (p.u.upper param_name) none rs)

/-- The five that read the four-byte length. -/
theorem agree_iff_session {rs : List (ℕ × Bytes)} {data : Bytes}
    (hrs : ∀ r ∈ rs, Fits Tag.TERMINATOR r) (hdata : data = stream Tag.TERMINATOR rs)
    (first : ∀ r ∈ rs.head?, r.1 / 256 ≠ 0x06) :
    Agree rs data ↔
      walk_from (session_walker data) data.length 0 [] = (spansOf 0 rs, .ok rs) := by
  have hvalues : (spansOf 0 rs).map (fun s => (s.tag, s.value data)) = rs :=
    values_spansOf hrs (by rw [hdata, List.drop_zero])
  refine ⟨Agree.session, fun session => ⟨session, ?_, ?_, ?_, ?_, ?_⟩⟩
  · rw [walk_written hrs _ hdata (fun _ _ => rfl) (fun _ _ => rfl),
      along_collect (b := data) (fun _ _ => rfl), List.nil_append, hvalues]
    rfl
  · rw [walk_written hrs _ hdata (fun _ _ => rfl) (fun _ _ => rfl), along_count (fun _ _ => rfl)]
    rfl
  · exact redact_written hrs hdata (body_at_written hdata (fun r hr => (hrs r hr).tag_lt) first)
  · intro V codec names
    have hwalk := walk_written hrs (pairs_walker codec names data) hdata (fun _ _ => rfl)
      (fun _ _ => rfl) PairState.init
    refine ⟨hwalk, ?_⟩
    rw [hwalk, along_pairs, hvalues]
    rfl
  · intro V p param_name
    have hwalk := walk_written hrs (raw_param_walker p data param_name) hdata (fun _ _ => rfl)
      (fun _ _ => rfl) none
    refine ⟨hwalk, ?_⟩
    rw [hwalk, along_raw_param, hvalues]

/-- SOURCE: session.py:384-412, invoke.py:1229-1276, invoke.py:1505-1709, invoke.py:1820-1862,
trace.py:54-86 and server.py:1228-1271.  On a stream that `tlv_record` wrote, the six walkers
agree on the records exactly when no value has 65535 bytes or more. -/
theorem walkers_agree_iff {rs : List (ℕ × Bytes)} {data : Bytes}
    (written : write_stream rs = .ok data) (tags : ∀ r ∈ rs, r.1 ≠ Tag.TERMINATOR)
    (first : ∀ r ∈ rs.head?, r.1 / 256 ≠ 0x06) :
    Agree rs data ↔ ∀ r ∈ rs, r.2.length < 0xFFFF := by
  obtain ⟨hdata, hfit⟩ := write_stream_eq written
  have hrs : ∀ r ∈ rs, Fits Tag.TERMINATOR r := fun r hr =>
    ⟨(hfit r hr).1, tags r hr, (hfit r hr).2⟩
  rw [agree_iff_session hrs hdata first]
  exact session_written_iff hrs hdata

/-- A name and a password whose value looks like a closing tag. -/
def shortRecords : List (ℕ × Bytes) := [(0x0111, [0x44]), (0x0117, [0x01, 0x17])]

theorem walkers_agree_shortRecords :
    Agree shortRecords (stream Tag.TERMINATOR shortRecords) :=
  (walkers_agree_iff (show write_stream shortRecords = .ok _ from rfl)
    (by decide) (by decide)).mpr (by decide)

/-- One record of 65535 bytes. -/
def longRecord : List (ℕ × Bytes) := [(0x0203, List.replicate 0xFFFF 0)]

/-- The session reads the value from the wrong place. -/
theorem longRecord_not_agree :
    ¬ Agree longRecord (stream Tag.TERMINATOR longRecord) := by
  have hrs : ∀ r ∈ longRecord, Fits Tag.TERMINATOR r := by
    intro r hr
    obtain rfl := List.mem_singleton.mp hr
    exact ⟨by decide, by decide, by rw [List.length_replicate]; decide⟩
  intro h
  have hshort := (session_written_iff hrs rfl).mp h.session _ List.mem_cons_self
  rw [List.length_replicate] at hshort
  exact absurd hshort (Nat.lt_irrefl _)

end SapRfc.Analysis.WalkersAgree
