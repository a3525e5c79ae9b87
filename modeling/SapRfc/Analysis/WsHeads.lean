import SapRfc.Analysis.Dicts
import SapRfc.Analysis.Routes
import SapRfc.Program.WsUpgrade

/-!
# HTTP heads are read as they are written

A response head is a status line, header lines and a blank line.  Its reader finds the end of it,
its status and the last value of each header, whatever else the server wrote.
-/

set_option autoImplicit false

namespace SapRfc.Analysis.WsHeads

open SapRfc.Library SapRfc.Program
open Delimiters Dicts

/-! ## Heads -/

/-- A response as a server writes it. -/
structure Response where
  version : Bytes
  code : ℕ
  reason : Bytes
  fields : List (Bytes × Bytes)
  version_plain : ∀ b ∈ version, b ≠ 13 ∧ b ≠ 32
  reason_plain : (13 : UInt8) ∉ reason
  names_plain : ∀ f ∈ fields, (13 : UInt8) ∉ f.1 ∧ (58 : UInt8) ∉ f.1
  values_plain : ∀ f ∈ fields, (13 : UInt8) ∉ f.2

namespace Response

/-- The digits of the code. -/
def digits (r : Response) : Bytes := (dec r.code).map UInt8.ofNat

/-- The first line. -/
def status_line (r : Response) : Bytes := r.version ++ 32 :: (r.digits ++ 32 :: r.reason)

/-- A header line. -/
def field_line (f : Bytes × Bytes) : Bytes := f.1 ++ 58 :: f.2

/-- The lines in front of the blank one. -/
def lines (r : Response) : List Bytes := r.status_line :: r.fields.map field_line

end Response

/-- Lines, a blank line behind them. -/
def headOf (lines : List Bytes) : Bytes := (lines.flatMap fun line => line ++ [13, 10]) ++ [13, 10]

/-- The head. -/
def Response.bytes (r : Response) : Bytes := headOf r.lines

/-- The name that a header is looked up by. -/
def field_name (name : Bytes) : PyStr := decodeLatin1 (lower_ascii (strip_ascii name))

/-- The value of the last header of a name. -/
def Response.field (r : Response) (name : PyStr) : Option PyStr :=
  (r.fields.reverse.find? fun f => field_name f.1 = name).map fun f =>
    decodeLatin1 (strip_ascii f.2)

/-! ## The end of a head -/

theorem head_end_ne_nil : HEAD_END ≠ [] := by
  unfold HEAD_END
  exact List.cons_ne_nil _ _

theorem headOf_cons (line : Bytes) (lines : List Bytes) :
    headOf (line :: lines) = line ++ 13 :: 10 :: headOf lines := by
  unfold headOf
  rw [List.flatMap_cons, List.append_assoc, List.append_assoc]
  rfl

/-- INTERNAL: the end does not begin inside a line. -/
theorem endedBy_line {line more : Bytes} (hline : (13 : UInt8) ∉ line)
    (h : EndedBy HEAD_END more) : EndedBy HEAD_END (line ++ more) := by
  induction line with
  | nil => exact h
  | cons x line ih =>
    obtain ⟨hx, hline⟩ := not_or.mp (mt List.mem_cons.mpr hline)
    have hhead : ¬ HEAD_END <+: x :: ((line ++ more) ++ []) :=
      fun hp => hx (List.cons_prefix_cons.mp hp).1
    exact (endedBy_cons head_end_ne_nil hhead).mpr (ih hline)

/-- INTERNAL: where a line is behind a line end, the end of the head does not begin there. -/
theorem endedBy_line_end {more : Bytes} (hmore : ¬ [13, 10] <+: more)
    (h : EndedBy HEAD_END more) : EndedBy HEAD_END (13 :: 10 :: more) := by
  have hsecond : ¬ HEAD_END <+: 10 :: (more ++ []) :=
    fun hp => absurd (List.cons_prefix_cons.mp hp).1 (by decide)
  have hfirst : ¬ HEAD_END <+: 13 :: ((10 :: more) ++ []) := by
    rw [List.append_nil]
    intro hp
    exact hmore (List.cons_prefix_cons.mp (List.cons_prefix_cons.mp hp).2).2
  exact (endedBy_cons head_end_ne_nil hfirst).mpr ((endedBy_cons head_end_ne_nil hsecond).mpr h)

/-- A head ends with its blank line, and not before. -/
theorem endedBy_headOf {lines : List Bytes} (hlines : lines ≠ [])
    (hplain : ∀ line ∈ lines, line ≠ [] ∧ (13 : UInt8) ∉ line) :
    EndedBy HEAD_END (headOf lines) := by
  induction lines with
  | nil => exact absurd rfl hlines
  | cons line lines ih =>
    obtain ⟨⟨-, hline⟩, hplain⟩ := List.forall_mem_cons.mp hplain
    rw [headOf_cons]
    refine endedBy_line hline ?_
    cases lines with
    | nil => exact endedBy_self head_end_ne_nil
    | cons next lines =>
      refine endedBy_line_end ?_ (ih (List.cons_ne_nil _ _) hplain)
      obtain ⟨hne, hnext⟩ := hplain next List.mem_cons_self
      rw [headOf_cons]
      cases next with
      | nil => exact absurd rfl hne
      | cons x next =>
        intro hp
        exact hnext ((List.cons_prefix_cons.mp hp).1 ▸ List.mem_cons_self)

/-! ## Lines -/

/-- INTERNAL: a line is cut off at its end. -/
theorem split_crlf_line {line : Bytes} (hline : (13 : UInt8) ∉ line) (more : Bytes) :
    split_crlf (line ++ 13 :: 10 :: more) = line :: split_crlf more := by
  induction line with
  | nil =>
    show split_crlf (13 :: 10 :: more) = _
    rw [split_crlf, if_pos ⟨rfl, rfl⟩]
  | cons x line ih =>
    obtain ⟨hx, hline⟩ := not_or.mp (mt List.mem_cons.mpr hline)
    have hrest := ih hline
    cases line with
    | nil =>
      show split_crlf (x :: 13 :: 10 :: more) = _
      have hstep : split_crlf (13 :: 10 :: more) = [] :: split_crlf more := hrest
      rw [split_crlf, if_neg fun h => hx h.1.symm, hstep]
    | cons y line =>
      show split_crlf (x :: y :: (line ++ 13 :: 10 :: more)) = _
      have hstep : split_crlf (y :: (line ++ 13 :: 10 :: more)) = (y :: line) :: split_crlf more :=
        hrest
      rw [split_crlf, if_neg fun h => hx h.1.symm, hstep]

/-- The lines of a head, and nothing behind them. -/
theorem split_crlf_headOf {lines : List Bytes} (hplain : ∀ line ∈ lines, (13 : UInt8) ∉ line) :
    split_crlf (headOf lines) = lines ++ [[], []] := by
  induction lines with
  | nil => rfl
  | cons line lines ih =>
    obtain ⟨hline, hplain⟩ := List.forall_mem_cons.mp hplain
    rw [headOf_cons, split_crlf_line hline, ih hplain, List.cons_append]

/-- INTERNAL: a split has a first part. -/
theorem split_crlf_ne_nil (s : Bytes) : split_crlf s ≠ [] := by
  unfold split_crlf
  split
  · exact List.cons_ne_nil _ _
  · exact List.cons_ne_nil _ _
  · split
    · exact List.cons_ne_nil _ _
    · split <;> exact List.cons_ne_nil _ _

/-- INTERNAL: one item of the first line. -/
theorem headD_split_crlf_cons {x y : UInt8} (rest : Bytes) (h : ¬(x = 13 ∧ y = 10)) :
    (split_crlf (x :: y :: rest)).headD [] = x :: (split_crlf (y :: rest)).headD [] := by
  rw [split_crlf, if_neg h]
  cases hparts : split_crlf (y :: rest) with
  | nil => exact absurd hparts (split_crlf_ne_nil _)
  | cons part parts => rfl

/-- The first line does not depend on what is behind a line end. -/
theorem headD_split_crlf_append {front : Bytes} (h : [13, 10] <:+: front) (back : Bytes) :
    (split_crlf (front ++ back)).headD [] = (split_crlf front).headD [] := by
  induction front with
  | nil => exact absurd (List.infix_nil.mp h) (List.cons_ne_nil _ _)
  | cons x front ih =>
    cases front with
    | nil =>
      have hlength := h.length_le
      exact absurd hlength (by simp)
    | cons y front =>
      by_cases hend : x = 13 ∧ y = 10
      · show (split_crlf (x :: y :: (front ++ back))).headD [] = _
        rw [split_crlf, if_pos hend, split_crlf, if_pos hend]
        rfl
      · have hrest : [13, 10] <:+: y :: front := by
          rcases List.infix_cons_iff.mp h with hp | hrest
          · obtain ⟨h₁, hp⟩ := List.cons_prefix_cons.mp hp
            exact absurd ⟨h₁.symm, (List.cons_prefix_cons.mp hp).1.symm⟩ hend
          · exact hrest
        show (split_crlf (x :: y :: (front ++ back))).headD [] = _
        rw [headD_split_crlf_cons _ hend, headD_split_crlf_cons _ hend]
        exact congrArg (List.cons x) (ih hrest)

/-- A status is that of the head, whatever came with it. -/
theorem status_code_append (u : Unicode) {head : Bytes} (hhead : EndedBy HEAD_END head)
    (left : Bytes) : status_code u (head ++ left) = status_code u head := by
  have hend : [13, 10] <:+: HEAD_END := (List.prefix_append [13, 10] [13, 10]).isInfix
  unfold status_code
  rw [headD_split_crlf_append (hend.trans hhead.1.isInfix) left]

/-! ## A response is read -/

/-- INTERNAL: digits are single bytes. -/
theorem decodeLatin1_digits (n : ℕ) : decodeLatin1 ((dec n).map UInt8.ofNat) = dec n := by
  unfold decodeLatin1
  rw [List.map_map]
  refine (List.map_congr_left fun c hc => ?_).trans (List.map_id _)
  have hrange := mem_dec hc
  show (UInt8.ofNat c).toNat = c
  rw [UInt8.toNat_ofNat', Nat.mod_eq_of_lt (by omega)]

/-- INTERNAL: they are digits. -/
theorem mem_digits {n : ℕ} {b : UInt8} (h : b ∈ (dec n).map UInt8.ofNat) :
    48 ≤ b.toNat ∧ b.toNat ≤ 57 := by
  obtain ⟨c, hc, rfl⟩ := List.mem_map.mp h
  have hrange := mem_dec hc
  rw [UInt8.toNat_ofNat', Nat.mod_eq_of_lt (by omega)]
  exact hrange

/-- INTERNAL: no byte that is not a digit is among them. -/
theorem not_mem_digits {n : ℕ} {b : UInt8} (h : b.toNat < 48) : b ∉ (dec n).map UInt8.ofNat := by
  intro hb
  have hrange := mem_digits hb
  omega

section Read

variable (r : Response)

/-- INTERNAL: no line is empty, and none has a line end in it. -/
theorem lines_plain : ∀ line ∈ r.lines, line ≠ [] ∧ (13 : UInt8) ∉ line := by
  intro line hline
  unfold Response.lines at hline
  rcases List.mem_cons.mp hline with rfl | hline
  · refine ⟨?_, ?_⟩
    · unfold Response.status_line
      simp
    · unfold Response.status_line
      have hdigits : (13 : UInt8) ∉ r.digits := not_mem_digits (by decide)
      have hversion : (13 : UInt8) ∉ r.version := fun h => (r.version_plain 13 h).1 rfl
      simp [r.reason_plain, hdigits, hversion]
  · obtain ⟨f, hf, rfl⟩ := List.mem_map.mp hline
    unfold Response.field_line
    refine ⟨by simp, ?_⟩
    simp [(r.names_plain f hf).1, r.values_plain f hf]

/-- The head of a response ends with its blank line. -/
theorem endedBy_bytes : EndedBy HEAD_END r.bytes :=
  endedBy_headOf (List.cons_ne_nil _ _) (lines_plain r)

/-- INTERNAL: the lines of a response. -/
theorem split_crlf_bytes : split_crlf r.bytes = r.lines ++ [[], []] :=
  split_crlf_headOf fun line hline => (lines_plain r line hline).2

/-- The status of a response is read. -/
theorem status_code_bytes {u : Unicode} (hint : u.int (dec r.code) = some (r.code : ℤ)) :
    status_code u r.bytes = .ok (r.code : ℤ) := by
  have hversion : (32 : UInt8) ∉ r.version := fun h => (r.version_plain 32 h).2 rfl
  have hdigits : (32 : UInt8) ∉ r.digits := not_mem_digits (by decide)
  have hascii : r.digits.all (fun x => x.toNat < 128) = true := by
    rw [List.all_eq_true]
    intro b hb
    have hrange := mem_digits hb
    exact decide_eq_true (by omega)
  have hline : splitOn 32 ((r.lines ++ [[], []]).headD []) =
      r.version :: r.digits :: splitOn 32 r.reason := by
    show splitOn 32 r.status_line = _
    unfold Response.status_line
    rw [splitOn_append _ hversion, splitOn_append _ hdigits]
  have hdecoded : decodeLatin1 r.digits = dec r.code := decodeLatin1_digits r.code
  unfold status_code
  rw [split_crlf_bytes, hline]
  unfold int_of_ascii
  dsimp only
  rw [if_pos hascii, hdecoded, hint]

/-- INTERNAL: a header line sets its header. -/
theorem parse_http_header_field {f : Bytes × Bytes} (hname : (58 : UInt8) ∉ f.1)
    (headers : List (PyStr × PyStr)) :
    parse_http_header headers (Response.field_line f) =
      assocSet headers (field_name f.1) (decodeLatin1 (strip_ascii f.2)) := by
  have hparts : partition_at 58 (Response.field_line f) = f := by
    unfold partition_at Response.field_line
    have hall : ∀ b ∈ f.1, decide (b ≠ 58) = true := fun b hb =>
      decide_eq_true fun h => hname (h ▸ hb)
    rw [List.takeWhile_append_of_pos hall, List.dropWhile_append_of_pos hall]
    simp
  unfold parse_http_header
  rw [if_pos (by unfold Response.field_line; simp), hparts]
  rfl

/-- INTERNAL: the headers of header lines. -/
theorem assocGet_foldl_fields {fields : List (Bytes × Bytes)}
    (hplain : ∀ f ∈ fields, (58 : UInt8) ∉ f.1) (headers : List (PyStr × PyStr)) (name : PyStr) :
    assocGet ((fields.map Response.field_line).foldl parse_http_header headers) name =
      ((fields.reverse.find? fun f => field_name f.1 = name).map fun f =>
        decodeLatin1 (strip_ascii f.2)).or (assocGet headers name) := by
  induction fields generalizing headers with
  | nil => rfl
  | cons f fields ih =>
    obtain ⟨hf, hplain⟩ := List.forall_mem_cons.mp hplain
    rw [List.map_cons, List.foldl_cons, ih hplain, parse_http_header_field hf, assocGet_assocSet,
      List.reverse_cons, List.find?_append]
    cases hfind : fields.reverse.find? fun f => field_name f.1 = name with
    | some found => rfl
    | none =>
      by_cases hname : field_name f.1 = name
      · simp [hname]
      · simp [hname]

/-- A header has the value of its last line. -/
theorem assocGet_parse_headers (name : PyStr) :
    assocGet (parse_headers r.bytes) name = r.field name := by
  unfold parse_headers
  rw [split_crlf_bytes]
  show assocGet ((r.fields.map Response.field_line ++ [[], []]).foldl parse_http_header []) name = _
  rw [List.foldl_append]
  have hblank : ∀ headers, [([] : Bytes), []].foldl parse_http_header headers = headers :=
    fun headers => rfl
  rw [hblank, assocGet_foldl_fields fun f hf => (r.names_plain f hf).2]
  unfold Response.field
  exact Option.or_none ..

end Read

end SapRfc.Analysis.WsHeads
