import SapRfc.Library.Records

/-!
# Segments of a record stream

A reader that stops between two records leaves the rest of the stream.  To read a record it looks
at the header, the value and a closing tag, and at nothing else.  So what lies between two stops
can be cut out of the stream: read by itself it has the records that were read on the way.
-/

set_option autoImplicit false

namespace SapRfc.Library.Records

variable {last tag : ℕ} {b c value rest : Bytes} {rs rs' : List (ℕ × Bytes)}

/-- The records that are read of a stream, up to a stop, and what is left there. -/
inductive Through (last : ℕ) : Bytes → List (ℕ × Bytes) → Bytes → Prop where
  | stop (b : Bytes) : Through last b [] b
  | record {b value rest c : Bytes} {tag : ℕ} {rs : List (ℕ × Bytes)}
      (read : scan last b = .record tag value rest) (behind : Through last rest rs c) :
      Through last b ((tag, value) :: rs) c

/-! ## One record -/

/-- INTERNAL: a header of four bytes. -/
theorem scan_append {head : Bytes} (h : head.length = 4) (body : Bytes) :
    scan last (head ++ body) =
      if ofBE (head.take 2) = last then .terminator
      else if ofBE (head.drop 2) = 0xFFFF then
        if body.length < 4 then .headless (ofBE (head.take 2)) body.length
        else takeValue (ofBE (head.take 2)) true (ofBE (body.take 4)) (body.drop 4)
      else takeValue (ofBE (head.take 2)) false (ofBE (head.drop 2)) body := by
  have htag : (head ++ body).take 2 = head.take 2 := List.take_append_of_le_length (by omega)
  have hlen : ((head ++ body).drop 2).take 2 = head.drop 2 := by
    rw [List.drop_append_of_le_length (by omega)]
    exact List.take_left' (by rw [List.length_drop, h])
  have hbody : (head ++ body).drop 4 = body := List.drop_left' h
  unfold scan
  rw [htag, hlen, hbody, if_neg (by rw [List.length_append]; omega)]

/-- INTERNAL: a value that is there. -/
theorem takeValue_eq_record {t len : ℕ} {extended : Bool}
    (h : takeValue t extended len b = .record tag value rest) :
    t = tag ∧ value.length = len ∧ ∃ tail, b = value ++ tail ∧ rest = skipClose tag tail := by
  unfold takeValue at h
  split at h
  · cases h
  next hlen =>
    obtain ⟨rfl, rfl, rfl⟩ := Scan.record.inj h
    exact ⟨rfl, List.length_take_of_le (Nat.le_of_not_lt hlen), b.drop len,
      (List.take_append_drop len b).symm, rfl⟩

/-- A record is read the same, whatever stands behind its value. -/
theorem scan_eq_record (h : scan last b = .record tag value rest) :
    ∃ head tail, b = head ++ (value ++ tail) ∧ rest = skipClose tag tail ∧
      ∀ tail', scan last (head ++ (value ++ tail')) = .record tag value (skipClose tag tail') := by
  have hfour : 4 ≤ b.length := (Nat.le_add_left 4 _).trans (length_rest_of_scan h)
  obtain ⟨head, body, hhead, rfl⟩ : ∃ head body, head.length = 4 ∧ b = head ++ body :=
    ⟨b.take 4, b.drop 4, List.length_take_of_le hfour, (List.take_append_drop 4 b).symm⟩
  rw [scan_append hhead] at h
  split at h
  · cases h
  next hlast =>
    split at h
    next hextended =>
      split at h
      · cases h
      next hlong =>
        obtain ⟨size, body, hsize, rfl⟩ : ∃ size body', size.length = 4 ∧ body = size ++ body' :=
          ⟨body.take 4, body.drop 4, List.length_take_of_le (Nat.le_of_not_lt hlong),
            (List.take_append_drop 4 body).symm⟩
        rw [List.take_left' hsize, List.drop_left' hsize] at h
        obtain ⟨rfl, hlength, tail, rfl, hrest⟩ := takeValue_eq_record h
        refine ⟨head ++ size, tail, (List.append_assoc ..).symm, hrest, fun tail' => ?_⟩
        have hroom : ¬ (size ++ (value ++ tail')).length < 4 := by
          rw [List.length_append]
          omega
        rw [List.append_assoc, scan_append hhead, if_neg hlast, if_pos hextended, if_neg hroom,
          List.take_left' hsize, List.drop_left' hsize, ← hlength, takeValue_append]
    next hplain =>
      obtain ⟨rfl, hlength, tail, rfl, hrest⟩ := takeValue_eq_record h
      refine ⟨head, tail, rfl, hrest, fun tail' => ?_⟩
      rw [scan_append hhead, if_neg hlast, if_neg hplain, ← hlength, takeValue_append]

/-- INTERNAL: a closing tag in front of a stop is in front of it in the segment too. -/
theorem skipClose_cut {tail middle : Bytes} (h : skipClose tag tail = middle ++ c) :
    ∃ tail', tail = tail' ++ c ∧ skipClose tag tail' = middle := by
  unfold skipClose at h
  split at h
  next hclose =>
    refine ⟨tail.take 2 ++ middle, ?_, ?_⟩
    · rw [List.append_assoc, ← h, List.take_append_drop]
    · have hlength : (tail.take 2).length = 2 := List.length_take_of_le hclose.1
      unfold skipClose
      rw [List.take_left' hlength, List.drop_left' hlength,
        if_pos ⟨by rw [List.length_append]; omega, hclose.2⟩]
  next hopen =>
    refine ⟨middle, h, ?_⟩
    unfold skipClose
    refine if_neg fun hclose => hopen ?_
    rw [h, List.length_append, List.take_append_of_le_length hclose.1]
    exact ⟨Nat.le_add_right_of_le hclose.1, hclose.2⟩

/-- INTERNAL: what is left behind a record is the end of what it was read from. -/
theorem scan_suffix (h : scan last b = .record tag value rest) : ∃ front, b = front ++ rest := by
  obtain ⟨head, tail, rfl, rfl, -⟩ := scan_eq_record h
  obtain ⟨tail', htail, -⟩ := skipClose_cut (List.nil_append (skipClose tag tail)).symm
  refine ⟨head ++ (value ++ tail'), ?_⟩
  rw [List.append_assoc, List.append_assoc, ← htail]

/-- A record is read the same when what stands behind a later stop is cut off. -/
theorem scan_cut {front middle : Bytes}
    (h : scan last (front ++ c) = .record tag value (middle ++ c)) :
    scan last front = .record tag value middle := by
  obtain ⟨head, tail, hb, hrest, hread⟩ := scan_eq_record h
  obtain ⟨tail', rfl, hmiddle⟩ := skipClose_cut hrest.symm
  have hfront : front ++ c = (head ++ (value ++ tail')) ++ c := by
    rw [hb, List.append_assoc, List.append_assoc]
  rw [List.append_cancel_right hfront, hread, hmiddle]

/-! ## Segments -/

theorem Through.suffix (h : Through last b rs c) : ∃ segment, b = segment ++ c := by
  induction h with
  | stop b => exact ⟨[], rfl⟩
  | record read _ ih =>
    obtain ⟨segment, rfl⟩ := ih
    obtain ⟨front, rfl⟩ := scan_suffix read
    exact ⟨front ++ segment, (List.append_assoc ..).symm⟩

/-- A walk goes on from a stop. -/
theorem Through.records (h : Through last b rs c) :
    (walk last b).records = rs ++ (walk last c).records := by
  induction h with
  | stop b => rfl
  | record read _ ih =>
    rw [walk_of_record read, List.cons_append, ← ih]
    rfl

/-- INTERNAL: the walk of no bytes. -/
theorem records_nil : (walk last []).records = [] := rfl

/-- A segment that is cut out is read through to its end. -/
theorem Through.cut {segment : Bytes} (h : Through last (segment ++ c) rs c) :
    Through last segment rs [] := by
  generalize hb : segment ++ c = b at h
  induction h generalizing segment with
  | stop b =>
    have hnil : segment = [] := List.append_left_eq_self.mp hb
    rw [hnil]
    exact .stop []
  | record read behind ih =>
    subst hb
    obtain ⟨middle, rfl⟩ := behind.suffix
    exact .record (scan_cut read) (ih rfl)

/-- A segment has the records that were read on the way. -/
theorem Through.records_segment {segment : Bytes} (h : Through last (segment ++ c) rs c) :
    (walk last segment).records = rs := by
  rw [h.cut.records, records_nil, List.append_nil]

/-- INTERNAL: a walk that has a record reads it first. -/
theorem scan_of_records_cons {r : ℕ × Bytes} (h : (walk last b).records = r :: rs) :
    ∃ rest, scan last b = .record r.1 r.2 rest ∧ (walk last rest).records = rs := by
  cases hscan : scan last b with
  | record tag value rest =>
    rw [walk_of_record hscan] at h
    obtain ⟨rfl, hrest⟩ := List.cons.inj h
    exact ⟨rest, rfl, hrest⟩
  | _ =>
    rw [walk_of_not_record (by rw [hscan]; exact nofun)] at h
    cases h

/-- A walk can be stopped behind any of its records. -/
theorem exists_through (h : (walk last b).records = rs ++ rs') :
    ∃ c, Through last b rs c ∧ (walk last c).records = rs' := by
  induction rs generalizing b with
  | nil => exact ⟨b, .stop b, h⟩
  | cons r rs ih =>
    obtain ⟨rest, hscan, hrest⟩ := scan_of_records_cons h
    obtain ⟨c, hthrough, hc⟩ := ih hrest
    exact ⟨c, .record hscan hthrough, hc⟩

end SapRfc.Library.Records
