import SapRfc.Analysis.Dicts
import SapRfc.Analysis.TableRows
import SapRfc.Library.Layouts
import SapRfc.Program.Codec

/-!
# Rows and their fields

A structure is encoded field by field into a buffer of zeros, and decoded field by field from the
same spans.  Where the spans are disjoint and inside the buffer, and no field is longer than its
span, every span of the result holds the bytes of its field and zeros behind them; so each field is
decoded from what it was encoded to, whatever the other fields are.
-/

set_option autoImplicit false

namespace SapRfc.Analysis.RowLayouts

open SapRfc.Library SapRfc.Library.Layouts SapRfc.Program Dicts

variable {L : Type} (u : Unicode) (s : Scalars L) (mode : Bool)

/-! ## One field -/

/-- A field in the layout of the structure it stands in. -/
def in_mode (child : FieldDesc) : FieldDesc := { child with unicode_mode := mode }

/-- The bytes of a value in a field. -/
def encode_given (child : FieldDesc) (value : PyVal L) : Except PyError Bytes :=
  if child.rfctype = RFCTYPE_STRUCTURE then
    match child.type_desc with
    | none => .error (missing_type_desc u (in_mode mode child) "encode")
    | some type_desc => s.encode_structure u mode type_desc value
  else if child.rfctype = RFCTYPE_TABLE then
    match child.type_desc with
    | none => .error (missing_type_desc u (in_mode mode child) "encode")
    | some type_desc => do
      let rows ← s.items_of value
      let raws ← rows.mapM fun row => s.encode_structure u mode type_desc row
      .ok raws.flatten
  else s.encode child.rfctype value (in_mode mode child)

/-- The value in the bytes of a span. -/
def decode_span (child : FieldDesc) (span : Bytes) : Except PyError (PyVal L) :=
  if child.rfctype = RFCTYPE_STRUCTURE then
    match child.type_desc with
    | none => .error (missing_type_desc u (in_mode mode child) "decode")
    | some type_desc => s.decode_structure u mode type_desc span
  else if child.rfctype = RFCTYPE_TABLE then
    match child.type_desc with
    | none => .error (missing_type_desc u (in_mode mode child) "decode")
    | some type_desc => do
      let rows ← table_rows u child.name (type_desc.row_size mode)
        (fun row => s.decode_structure u mode type_desc row) span none
      .ok (.list rows)
  else (s.decode child.rfctype span (in_mode mode child)).map .leaf

variable {u s mode}

/-- INTERNAL: a field of a row, by its own parts. -/
theorem encode_child_eq (child : FieldDesc) (value : PyVal L) :
    s.encode_child u mode child value =
      (s.lookup_name child.name value).bind fun given =>
        if given.isNone = true ∧ child.rfctype ∈ [RFCTYPE_STRUCTURE, RFCTYPE_TABLE] ∧
            child.type_desc.isNone = true then .ok none
        else (encode_given u s mode child
          (given.getD (s.default_field_value child.rfctype))).map some := by
  obtain ⟨name, rfctype, nuc_length, nuc_offset, uc_length, uc_offset, decimals, unicode_mode,
    type_desc, direction, optional, default_value, param_text⟩ := child
  cases type_desc with
  | none =>
    show ((s.lookup_name name value).bind fun given =>
      if given.isNone = true ∧ rfctype ∈ [RFCTYPE_STRUCTURE, RFCTYPE_TABLE] ∧ true = true then
        Except.ok none
      else if rfctype = RFCTYPE_STRUCTURE then .error _
      else if rfctype = RFCTYPE_TABLE then .error _
      else (s.encode rfctype (given.getD (s.default_field_value rfctype)) _).map some) = _
    refine congrArg _ (funext fun given => ?_)
    unfold encode_given
    dsimp only [Option.isNone_none]
    split
    · rfl
    · split
      · rfl
      · split <;> rfl
  | some type_desc =>
    show ((s.lookup_name name value).bind fun given =>
      if given.isNone = true ∧ rfctype ∈ [RFCTYPE_STRUCTURE, RFCTYPE_TABLE] ∧ false = true then
        Except.ok none
      else if rfctype = RFCTYPE_STRUCTURE then
        (s.encode_structure u mode type_desc (given.getD (s.default_field_value rfctype))).map some
      else if rfctype = RFCTYPE_TABLE then do
        let rows ← s.items_of (given.getD (s.default_field_value rfctype))
        let raws ← rows.mapM fun row => s.encode_structure u mode type_desc row
        .ok (some raws.flatten)
      else (s.encode rfctype (given.getD (s.default_field_value rfctype)) _).map some) = _
    refine congrArg _ (funext fun given => ?_)
    unfold encode_given
    dsimp only [Option.isNone_some]
    split
    · rfl
    · split
      · rfl
      · split
        · cases s.items_of (given.getD (s.default_field_value rfctype)) with
          | error e => rfl
          | ok rows =>
            simp only [Eff.except_ok_bind]
            cases rows.mapM fun row => s.encode_structure u mode type_desc row <;> rfl
        · rfl

/-- INTERNAL: a field that is read, by its own parts. -/
theorem decode_child_inside {child : FieldDesc} {data : Bytes}
    (hinside : (child.span mode).1 + (child.span mode).2 ≤ data.length) :
    s.decode_child u mode child data =
      decode_span u s mode child
        (pySlice data (child.span mode).1 ((child.span mode).1 + (child.span mode).2)) := by
  obtain ⟨name, rfctype, nuc_length, nuc_offset, uc_length, uc_offset, decimals, unicode_mode,
    type_desc, direction, optional, default_value, param_text⟩ := child
  cases type_desc with
  | none => exact if_neg (not_lt.mpr hinside)
  | some type_desc => exact if_neg (not_lt.mpr hinside)

/-- INTERNAL: a field that is read, from the bytes of its span. -/
theorem decode_child_eq {child : FieldDesc} {data : Bytes} (hoffset : 0 ≤ (child.span mode).1)
    (hlength : 0 ≤ (child.span mode).2)
    (hinside : (child.span mode).1 + (child.span mode).2 ≤ data.length) :
    s.decode_child u mode child data =
      decode_span u s mode child
        (slice data (child.span mode).1.toNat
          ((child.span mode).1.toNat + (child.span mode).2.toNat)) := by
  have hslice : pySlice data (child.span mode).1 ((child.span mode).1 + (child.span mode).2) =
      slice data (child.span mode).1.toNat
        ((child.span mode).1.toNat + (child.span mode).2.toNat) := by
    unfold pySlice pyIndex
    rw [if_neg (not_lt.mpr hoffset), if_neg (by omega), Int.toNat_add hoffset hlength,
      Nat.min_eq_left (by omega), Nat.min_eq_left (by omega)]
  rw [← hslice]
  exact decode_child_inside hinside

/-! ## The fields of a row -/

/-- The fields that were encoded, in the buffer. -/
def laid (mode : Bool) (ps : List (FieldDesc × Option Bytes)) (buf : Bytes) : Bytes :=
  ps.foldl
    (fun buf p =>
      match p.2 with
      | none => buf
      | some raw => lay buf (p.1.span mode).1 raw)
    buf

/-- INTERNAL: the loop over the fields. -/
theorem encode_fields_eq_ok {fields : List FieldDesc} {value : PyVal L} {buf out : Bytes} :
    s.encode_fields u mode fields value buf = .ok out ↔
      ∃ raws, (fields.mapM fun f => s.encode_child u mode f value) = .ok raws ∧
        out = laid mode (fields.zip raws) buf := by
  induction fields generalizing buf with
  | nil =>
    constructor
    · intro h
      exact ⟨[], rfl, (Except.ok.inj h).symm⟩
    · rintro ⟨raws, -, rfl⟩
      rfl
  | cons f fields ih =>
    have hstep : s.encode_fields u mode (f :: fields) value buf =
        (s.encode_child u mode f value) >>= fun raw =>
          s.encode_fields u mode fields value
            (match raw with
              | none => buf
              | some raw => lay buf (f.span mode).1 raw) := by
      show ((s.encode_child u mode f value) >>= fun raw =>
        match raw with
        | none => s.encode_fields u mode fields value buf
        | some raw => s.encode_fields u mode fields value (lay buf (f.span mode).1 raw)) = _
      congr 1
      funext raw
      cases raw <;> rfl
    rw [hstep, Eff.except_bind_eq_ok]
    constructor
    · rintro ⟨raw, hraw, h⟩
      obtain ⟨raws, hraws, rfl⟩ := ih.mp h
      exact ⟨raw :: raws, Eff.except_mapM_cons_eq_ok.mpr ⟨raw, raws, hraw, hraws, rfl⟩, rfl⟩
    · rintro ⟨raws, hraws, rfl⟩
      obtain ⟨raw, rest, hraw, hrest, rfl⟩ := Eff.except_mapM_cons_eq_ok.mp hraws
      exact ⟨raw, hraw, ih.mpr ⟨rest, hrest, rfl⟩⟩

/-- A structure is encoded where its fields are. -/
theorem encode_structure_eq_ok {type_desc : TypeDesc} {value : PyVal L} {out : Bytes} :
    s.encode_structure u mode type_desc value = .ok out ↔
      0 ≤ type_desc.row_size mode ∧
        ∃ raws, (type_desc.fields.mapM fun f => s.encode_child u mode f value) = .ok raws ∧
          out = laid mode (type_desc.fields.zip raws)
            (List.replicate (type_desc.row_size mode).toNat 0) := by
  obtain ⟨name, fields, nuc_size, uc_size⟩ := type_desc
  show (if TypeDesc.row_size ⟨name, fields, nuc_size, uc_size⟩ mode < 0 then .error _
    else s.encode_fields u mode fields value (List.replicate _ 0)) = .ok out ↔ _
  split
  · next hsize => exact ⟨nofun, fun h => absurd h.1 (not_le.mpr hsize)⟩
  · next hsize =>
    rw [encode_fields_eq_ok]
    exact ⟨fun h => ⟨not_lt.mp hsize, h⟩, fun h => h.2⟩

/-- Entries that are assigned one after the other. -/
def entered (result entries : List (PyStr × PyVal L)) : List (PyStr × PyVal L) :=
  entries.foldl (fun d e => assocSet d e.1 e.2) result

/-- INTERNAL: the values that are read are entered under the names of the fields. -/
theorem decode_fields_eq_ok {fields : List FieldDesc} {data : Bytes}
    {result entries : List (PyStr × PyVal L)} :
    s.decode_fields u mode fields data result = .ok entries ↔
      ∃ values, (fields.mapM fun f => s.decode_child u mode f data) = .ok values ∧
        entries = entered result ((fields.map FieldDesc.name).zip values) := by
  induction fields generalizing result with
  | nil =>
    constructor
    · intro h
      exact ⟨[], rfl, (Except.ok.inj h).symm⟩
    · rintro ⟨values, -, rfl⟩
      rfl
  | cons f fields ih =>
    show ((s.decode_child u mode f data) >>= fun value =>
      s.decode_fields u mode fields data (assocSet result f.name value)) = .ok entries ↔ _
    rw [Eff.except_bind_eq_ok]
    constructor
    · rintro ⟨value, hvalue, h⟩
      obtain ⟨values, hvalues, rfl⟩ := ih.mp h
      exact ⟨value :: values,
        Eff.except_mapM_cons_eq_ok.mpr ⟨value, values, hvalue, hvalues, rfl⟩, rfl⟩
    · rintro ⟨values, hvalues, rfl⟩
      obtain ⟨value, rest, hvalue, hrest, rfl⟩ := Eff.except_mapM_cons_eq_ok.mp hvalues
      exact ⟨value, hvalue, ih.mpr ⟨rest, hrest, rfl⟩⟩

/-- INTERNAL: a name that is not entered. -/
theorem assocGet_entered_absent {entries : List (PyStr × PyVal L)} {name : PyStr}
    (h : name ∉ entries.map Prod.fst) (result : List (PyStr × PyVal L)) :
    assocGet (entered result entries) name = assocGet result name := by
  induction entries generalizing result with
  | nil => rfl
  | cons e entries ih =>
    rw [List.map_cons, List.mem_cons, not_or] at h
    show assocGet (entered (assocSet result e.1 e.2) entries) name = _
    rw [ih h.2, assocGet_assocSet, if_neg (Ne.symm h.1)]

/-- The field whose value the dict has under its name: no field behind it has the same name. -/
def Shown (fields : List FieldDesc) (f : FieldDesc) : Prop :=
  ∃ before behind, fields = before ++ f :: behind ∧ f.name ∉ behind.map FieldDesc.name

theorem mem_of_shown {fields : List FieldDesc} {f : FieldDesc} (h : Shown fields f) :
    f ∈ fields := by
  obtain ⟨before, behind, rfl, -⟩ := h
  simp

/-- Every field is shown where the names are distinct. -/
theorem shown_of_nodup {fields : List FieldDesc} (h : (fields.map FieldDesc.name).Nodup)
    {f : FieldDesc} (hf : f ∈ fields) : Shown fields f := by
  obtain ⟨before, behind, rfl⟩ := List.append_of_mem hf
  refine ⟨before, behind, rfl, ?_⟩
  rw [List.map_append, List.map_cons] at h
  exact (List.nodup_cons.mp (List.nodup_append.mp h).2.1).1

/-- The value of a field that is shown. -/
theorem assocGet_entered {fields : List FieldDesc} {f : FieldDesc} (h : Shown fields f)
    (back : FieldDesc → PyVal L) :
    assocGet (entered [] (fields.map fun f => (f.name, back f))) f.name = some (back f) := by
  obtain ⟨before, behind, rfl, hbehind⟩ := h
  have hnames : f.name ∉ (behind.map fun f => (f.name, back f)).map Prod.fst := by
    rw [List.map_map]
    exact hbehind
  rw [List.map_append, List.map_cons]
  unfold entered
  rw [List.foldl_append, List.foldl_cons]
  refine (assocGet_entered_absent hnames _).trans ?_
  rw [assocGet_assocSet, if_pos rfl]

/-- INTERNAL: a name that no field has. -/
theorem assocGet_entered_none {fields : List FieldDesc} {name : PyStr}
    (h : name ∉ fields.map FieldDesc.name) (back : FieldDesc → PyVal L) :
    assocGet (entered [] (fields.map fun f => (f.name, back f))) name = none := by
  refine (assocGet_entered_absent ?_ _).trans rfl
  rw [List.map_map]
  exact h

/-! ## Spans -/

/-- The byte is in the span of the field. -/
def InSpan (mode : Bool) (f : FieldDesc) (i : ℤ) : Prop :=
  (f.span mode).1 ≤ i ∧ i < (f.span mode).1 + (f.span mode).2

/-- No byte is in both spans. -/
def Apart (mode : Bool) (f g : FieldDesc) : Prop := ∀ i, ¬ (InSpan mode f i ∧ InSpan mode g i)

/-- The spans of the fields are disjoint and inside the structure. -/
structure Spanned (mode : Bool) (type_desc : TypeDesc) : Prop where
  size : 0 ≤ type_desc.row_size mode
  offset : ∀ f ∈ type_desc.fields, 0 ≤ (f.span mode).1
  length : ∀ f ∈ type_desc.fields, 0 ≤ (f.span mode).2
  inside : ∀ f ∈ type_desc.fields, (f.span mode).1 + (f.span mode).2 ≤ type_desc.row_size mode
  apart : type_desc.fields.Pairwise (Apart mode)

/-- The first byte and the number of bytes of a span. -/
def start (mode : Bool) (f : FieldDesc) : ℕ := (f.span mode).1.toNat
def width (mode : Bool) (f : FieldDesc) : ℕ := (f.span mode).2.toNat

/-- The bytes of a span. -/
def span_of (mode : Bool) (f : FieldDesc) (data : Bytes) : Bytes :=
  slice data (start mode f) (start mode f + width mode f)

/-- INTERNAL: a field in the buffer. -/
theorem lay_eq {buf raw : Bytes} {offset : ℤ} (hoffset : 0 ≤ offset)
    (h : offset + raw.length ≤ buf.length) :
    lay buf offset raw = overwrite buf offset.toNat raw := by
  have hgrow : (offset + raw.length - buf.length).toNat = 0 := by omega
  have hsum : (offset + raw.length).toNat = offset.toNat + raw.length := by omega
  unfold lay setSlice pyIndex overwrite
  dsimp only
  rw [hgrow, List.replicate_zero, List.append_nil, if_neg (not_lt.mpr hoffset), if_neg (by omega),
    Nat.min_eq_left (by omega), Nat.min_eq_left (by omega), hsum, Nat.max_eq_right (by omega)]

/-- INTERNAL: the cell of a field. -/
def cell_of (mode : Bool) (p : FieldDesc × Option Bytes) : Cell UInt8 where
  start := start mode p.1
  width := width mode p.1
  raw := (p.2.getD []).take (width mode p.1)
  fits := by simp

/-- INTERNAL: fields that fit are put into their cells. -/
theorem laid_eq {ps : List (FieldDesc × Option Bytes)} {buf : Bytes}
    (hoffset : ∀ p ∈ ps, 0 ≤ (p.1.span mode).1) (hlength : ∀ p ∈ ps, 0 ≤ (p.1.span mode).2)
    (hinside : ∀ p ∈ ps, (p.1.span mode).1 + (p.1.span mode).2 ≤ buf.length)
    (hfits : ∀ p ∈ ps, (p.2.getD []).length ≤ width mode p.1) :
    laid mode ps buf = overwriteAll buf (ps.map (cell_of mode)) := by
  induction ps generalizing buf with
  | nil => rfl
  | cons p ps ih =>
    have hp := hfits p List.mem_cons_self
    have hlo := hoffset p List.mem_cons_self
    have hle := hlength p List.mem_cons_self
    have hhi := hinside p List.mem_cons_self
    unfold width at hp
    have hroom : start mode p.1 + (p.2.getD []).length ≤ buf.length := by
      unfold start
      omega
    have hhead : (match p.2 with
        | none => buf
        | some raw => lay buf (p.1.span mode).1 raw) =
        overwrite buf (cell_of mode p).start (cell_of mode p).raw := by
      unfold cell_of
      dsimp only
      rw [List.take_of_length_le (hfits p List.mem_cons_self)]
      cases hraw : p.2 with
      | none =>
        unfold overwrite
        simp
      | some raw =>
        rw [hraw] at hp
        exact lay_eq hlo (by simp only [Option.getD_some] at hp; omega)
    have hlen : (overwrite buf (cell_of mode p).start (cell_of mode p).raw).length =
        buf.length := by
      apply length_overwrite
      unfold cell_of
      dsimp only
      rw [List.take_of_length_le (hfits p List.mem_cons_self)]
      exact hroom
    show laid mode ps (match p.2 with
      | none => buf
      | some raw => lay buf (p.1.span mode).1 raw) = _
    rw [hhead, ih (fun q hq => hoffset q (List.mem_cons_of_mem _ hq))
      (fun q hq => hlength q (List.mem_cons_of_mem _ hq))
      (fun q hq => by rw [hlen]; exact hinside q (List.mem_cons_of_mem _ hq))
      (fun q hq => hfits q (List.mem_cons_of_mem _ hq))]
    rfl

/-- INTERNAL: the results of a list, each with what holds of it. -/
theorem mapM_of_forall {α β : Type} {l : List α} {g : α → Except PyError β} {P : α → β → Prop}
    (h : ∀ a ∈ l, ∃ b, g a = .ok b ∧ P a b) :
    ∃ bs, l.mapM g = .ok bs ∧ l.length = bs.length ∧ ∀ p ∈ l.zip bs, P p.1 p.2 := by
  induction l with
  | nil => exact ⟨[], rfl, rfl, nofun⟩
  | cons a l ih =>
    obtain ⟨b, hb, hP⟩ := h a List.mem_cons_self
    obtain ⟨bs, hbs, hlength, hall⟩ := ih fun a' ha' => h a' (List.mem_cons_of_mem _ ha')
    refine ⟨b :: bs, Eff.except_mapM_cons_eq_ok.mpr ⟨b, bs, hb, hbs, rfl⟩,
      congrArg (· + 1) hlength, ?_⟩
    rw [List.zip_cons_cons]
    exact List.forall_mem_cons.mpr ⟨hP, hall⟩

/-- INTERNAL: what a list raises is raised by one of its items. -/
theorem mapM_error {α β : Type} {l : List α} {g : α → Except PyError β} {exc : PyError}
    (h : l.mapM g = .error exc) : ∃ a ∈ l, g a = .error exc := by
  have hraises : Eff.Raises (fun e => ∃ a ∈ l, g a = .error e) (l.mapM g) :=
    Eff.Raises.mapM fun a ha e he => ⟨a, ha, he⟩
  exact hraises exc h

/-- INTERNAL: two programs that agree on the items of a list. -/
theorem mapM_congr {α β : Type} {l : List α} {g h : α → Except PyError β}
    (heq : ∀ a ∈ l, g a = h a) : l.mapM g = l.mapM h := by
  induction l with
  | nil => rfl
  | cons a l ih =>
    rw [List.mapM_cons, List.mapM_cons, heq a List.mem_cons_self,
      ih fun a' ha' => heq a' (List.mem_cons_of_mem _ ha')]

/-- INTERNAL: the results of a list, by a function. -/
theorem mapM_eq_map {α β : Type} {l : List α} {g : α → Except PyError β} {h : α → β}
    (heq : ∀ a ∈ l, g a = .ok (h a)) : l.mapM g = .ok (l.map h) := by
  induction l with
  | nil => rfl
  | cons a l ih =>
    exact Eff.except_mapM_cons_eq_ok.mpr ⟨h a, l.map h, heq a List.mem_cons_self,
      ih fun a' ha' => heq a' (List.mem_cons_of_mem _ ha'), rfl⟩

/-- INTERNAL: what a mapped list says of its items. -/
theorem forall_of_mapM {α β : Type} {l : List α} {g : α → Except PyError β} {bs : List β}
    (h : l.mapM g = .ok bs) : l.length = bs.length ∧ ∀ p ∈ l.zip bs, g p.1 = .ok p.2 := by
  induction l generalizing bs with
  | nil =>
    obtain rfl : bs = [] := (Except.ok.inj h).symm
    exact ⟨rfl, nofun⟩
  | cons a l ih =>
    obtain ⟨b, rest, hb, hrest, rfl⟩ := Eff.except_mapM_cons_eq_ok.mp h
    obtain ⟨hlength, hall⟩ := ih hrest
    rw [List.zip_cons_cons]
    exact ⟨congrArg (· + 1) hlength, List.forall_mem_cons.mpr ⟨hb, hall⟩⟩

/-- INTERNAL: each item stands beside another one in a list of the same length. -/
theorem exists_zip_of_mem {α β : Type} {l : List α} {bs : List β} (h : l.length = bs.length) {a : α}
    (ha : a ∈ l) : ∃ b, (a, b) ∈ l.zip bs := by
  rw [← List.map_fst_zip h.le] at ha
  obtain ⟨p, hp, rfl⟩ := List.mem_map.mp ha
  exact ⟨p.2, hp⟩

/-- The value of the row is encoded in the field, and the field is read back as the value. -/
def FieldReadsBack (u : Unicode) (s : Scalars L) (mode : Bool) (f : FieldDesc)
    (value back : PyVal L) : Prop :=
  ∃ raw, s.encode_child u mode f value = .ok (some raw) ∧ raw.length ≤ width mode f ∧
    decode_span u s mode f (raw ++ List.replicate (width mode f - raw.length) 0) = .ok back

/-- The row is encoded in the bytes of its layout, and they are read back as the value. -/
def RowReadsBack (u : Unicode) (s : Scalars L) (mode : Bool) (type_desc : TypeDesc)
    (value back : PyVal L) : Prop :=
  ∃ out, s.encode_structure u mode type_desc value = .ok out ∧
    out.length = (type_desc.row_size mode).toNat ∧
      s.decode_structure u mode type_desc out = .ok back

section Row

variable {type_desc : TypeDesc} (h : Spanned mode type_desc)

include h

/-- INTERNAL: a span ends inside the buffer. -/
theorem span_inside {f : FieldDesc} (hf : f ∈ type_desc.fields) :
    start mode f + width mode f ≤ (type_desc.row_size mode).toNat := by
  have hoffset := h.offset f hf
  have hlength := h.length f hf
  have hinside := h.inside f hf
  unfold start width
  omega

/-- Fields that fit leave the size as it is, and each span holds the bytes of its field. -/
theorem laid_spans {raws : List (Option Bytes)} (hraws : type_desc.fields.length = raws.length)
    (hfits : ∀ p ∈ type_desc.fields.zip raws, (p.2.getD []).length ≤ width mode p.1) :
    let out := laid mode (type_desc.fields.zip raws)
      (List.replicate (type_desc.row_size mode).toNat 0)
    out.length = (type_desc.row_size mode).toNat ∧
      ∀ p ∈ type_desc.fields.zip raws,
        span_of mode p.1 out =
          p.2.getD [] ++ List.replicate (width mode p.1 - (p.2.getD []).length) 0 := by
  have hfield : ∀ p : FieldDesc × Option Bytes, p ∈ type_desc.fields.zip raws →
      p.1 ∈ type_desc.fields := fun p hp => (List.of_mem_zip hp).1
  have hzeros : (List.replicate (type_desc.row_size mode).toNat (0 : UInt8)).length =
      (type_desc.row_size mode).toNat := List.length_replicate
  have hlaid : laid mode (type_desc.fields.zip raws)
      (List.replicate (type_desc.row_size mode).toNat 0) =
      overwriteAll (List.replicate (type_desc.row_size mode).toNat 0)
        ((type_desc.fields.zip raws).map (cell_of mode)) := laid_eq
    (fun p hp => h.offset p.1 (hfield p hp)) (fun p hp => h.length p.1 (hfield p hp))
    (fun p hp => by
      have hinside := h.inside p.1 (hfield p hp)
      have hsize := h.size
      rw [hzeros]
      omega)
    hfits
  have hinside : ∀ c ∈ (type_desc.fields.zip raws).map (cell_of mode),
      c.Inside (List.replicate (type_desc.row_size mode).toNat (0 : UInt8)).length := by
    intro c hc
    obtain ⟨p, hp, rfl⟩ := List.mem_map.mp hc
    rw [hzeros]
    exact span_inside h (hfield p hp)
  have hapart : ((type_desc.fields.zip raws).map (cell_of mode)).Pairwise Cell.Apart := by
    rw [List.pairwise_map]
    have hfst : ((type_desc.fields.zip raws).map Prod.fst).Pairwise (Apart mode) := by
      rw [List.map_fst_zip hraws.le]
      exact h.apart
    rw [List.pairwise_map] at hfst
    refine hfst.imp_of_mem ?_
    rintro p q hp hq hpq i ⟨⟨hplo, hphi⟩, hqlo, hqhi⟩
    have hpoffset := h.offset p.1 (hfield p hp)
    have hplength := h.length p.1 (hfield p hp)
    have hqoffset := h.offset q.1 (hfield q hq)
    have hqlength := h.length q.1 (hfield q hq)
    unfold cell_of at hplo hphi hqlo hqhi
    unfold start at hplo hphi hqlo hqhi
    unfold width at hphi hqhi
    dsimp only at hplo hphi hqlo hqhi
    exact hpq i ⟨⟨by omega, by omega⟩, by omega, by omega⟩
  intro out
  rw [show out = _ from hlaid]
  refine ⟨(length_overwriteAll hinside).trans hzeros, fun p hp => ?_⟩
  have hslice := slice_overwriteAll_of_mem hinside hapart (List.mem_map_of_mem hp)
  have hsize := span_inside h (hfield p hp)
  have hrest : slice (List.replicate (type_desc.row_size mode).toNat (0 : UInt8))
      (start mode p.1 + (p.2.getD []).length) (start mode p.1 + width mode p.1) =
      List.replicate (width mode p.1 - (p.2.getD []).length) 0 := by
    unfold slice
    rw [List.drop_replicate, List.take_replicate]
    congr 1
    have hp := hfits p hp
    omega
  unfold cell_of at hslice
  dsimp only at hslice
  rw [List.take_of_length_le (hfits p hp), hrest] at hslice
  exact hslice

/-- A structure is decoded where its fields are, each from its span. -/
theorem decode_structure_eq_ok {data : Bytes}
    (hdata : data.length = (type_desc.row_size mode).toNat) {back : PyVal L} :
    s.decode_structure u mode type_desc data = .ok back ↔
      ∃ values,
        (type_desc.fields.mapM fun f => decode_span u s mode f (span_of mode f data)) = .ok values ∧
          back = .dict (entered [] ((type_desc.fields.map FieldDesc.name).zip values)) := by
  have hchildren : (type_desc.fields.mapM fun f => s.decode_child u mode f data) =
      type_desc.fields.mapM fun f => decode_span u s mode f (span_of mode f data) := by
    apply mapM_congr
    intro f hf
    have hsize := h.size
    have hinside := h.inside f hf
    exact decode_child_eq (h.offset f hf) (h.length f hf) (by omega)
  have hentries : ∀ entries, s.decode_fields u mode type_desc.fields data [] = .ok entries ↔
      ∃ values,
        (type_desc.fields.mapM fun f => decode_span u s mode f (span_of mode f data)) = .ok values ∧
          entries = entered [] ((type_desc.fields.map FieldDesc.name).zip values) := by
    intro entries
    rw [← hchildren]
    exact decode_fields_eq_ok
  obtain ⟨name, fields, nuc_size, uc_size⟩ := type_desc
  show ((s.decode_fields u mode fields data []) >>= fun entries => .ok (.dict entries)) =
    .ok back ↔ _
  rw [Eff.except_bind_eq_ok]
  constructor
  · rintro ⟨entries, hdecoded, hback⟩
    obtain ⟨values, hvalues, rfl⟩ := (hentries entries).mp hdecoded
    exact ⟨values, hvalues, (Except.ok.inj hback).symm⟩
  · rintro ⟨values, hvalues, rfl⟩
    exact ⟨_, (hentries _).mpr ⟨values, hvalues, rfl⟩, rfl⟩

/-- A row comes back field by field. -/
theorem row_round {value : PyVal L} (back : FieldDesc → PyVal L)
    (hfields : ∀ f ∈ type_desc.fields, FieldReadsBack u s mode f value (back f)) :
    RowReadsBack u s mode type_desc value
      (.dict (entered [] (type_desc.fields.map fun f => (f.name, back f)))) := by
  obtain ⟨raws, hraws, hlength, hall⟩ := mapM_of_forall
    (g := fun f => s.encode_child u mode f value)
    (P := fun f raw => ∃ bytes, raw = some bytes ∧ bytes.length ≤ width mode f ∧
      decode_span u s mode f (bytes ++ List.replicate (width mode f - bytes.length) 0) =
        .ok (back f))
    fun f hf => by
      obtain ⟨raw, hraw, hfits, hdecoded⟩ := hfields f hf
      exact ⟨some raw, hraw, raw, rfl, hfits, hdecoded⟩
  have hfits : ∀ p ∈ type_desc.fields.zip raws, (p.2.getD []).length ≤ width mode p.1 := by
    intro p hp
    obtain ⟨bytes, hbytes, hle, -⟩ := hall p hp
    rw [hbytes]
    exact hle
  obtain ⟨hsize, hspans⟩ := laid_spans h hlength hfits
  refine ⟨_, encode_structure_eq_ok.mpr ⟨h.size, raws, hraws, rfl⟩, hsize, ?_⟩
  refine (decode_structure_eq_ok h hsize).mpr ⟨type_desc.fields.map back, ?_, ?_⟩
  · apply mapM_eq_map
    intro f hf
    obtain ⟨raw, hmem⟩ := exists_zip_of_mem hlength hf
    obtain ⟨bytes, hbytes, -, hdecoded⟩ := hall _ hmem
    have hspan := hspans _ hmem
    dsimp only at hbytes hdecoded hspan
    rw [hbytes] at hspan
    rw [hspan]
    exact hdecoded
  · rw [List.zip_map']

end Row

/-! ## Fields that are read back -/

section Fields

variable {f : FieldDesc} {row : PyVal L} {given : Option (PyVal L)}
  (hgiven : s.lookup_name f.name row = .ok given)

include hgiven

/-- INTERNAL: a field that has a layout, or needs none. -/
theorem encode_child_of_given
    (hlayout : f.rfctype ∉ [RFCTYPE_STRUCTURE, RFCTYPE_TABLE] ∨ f.type_desc.isNone = false) :
    s.encode_child u mode f row =
      (encode_given u s mode f (given.getD (s.default_field_value f.rfctype))).map some := by
  rw [encode_child_eq, hgiven]
  refine if_neg ?_
  rintro ⟨-, htype, hnone⟩
  rcases hlayout with h | h
  · exact h htype
  · rw [hnone] at h
    cases h

/-- A scalar in a row. -/
theorem leaf_field_reads_back (htype : f.rfctype ∉ [RFCTYPE_STRUCTURE, RFCTYPE_TABLE]) {raw : Bytes}
    {back : L}
    (hraw : s.encode f.rfctype (given.getD (s.default_field_value f.rfctype)) (in_mode mode f) =
      .ok raw)
    (hlength : raw.length ≤ width mode f)
    (hback : s.decode f.rfctype (raw ++ List.replicate (width mode f - raw.length) 0)
      (in_mode mode f) = .ok back) :
    FieldReadsBack u s mode f row (.leaf back) := by
  simp only [List.mem_cons, List.not_mem_nil, or_false, not_or] at htype
  refine ⟨raw, ?_, hlength, ?_⟩
  · rw [encode_child_of_given hgiven (.inl (by simpa using htype))]
    unfold encode_given
    rw [if_neg htype.1, if_neg htype.2, hraw]
    rfl
  · unfold decode_span
    rw [if_neg htype.1, if_neg htype.2, hback]
    rfl

/-- A structure in a row. -/
theorem structure_field_reads_back (htype : f.rfctype = RFCTYPE_STRUCTURE) {inner : TypeDesc}
    (hinner : f.type_desc = some inner) (hwidth : (f.span mode).2 = inner.row_size mode)
    {back : PyVal L}
    (h : RowReadsBack u s mode inner (given.getD (s.default_field_value f.rfctype)) back) :
    FieldReadsBack u s mode f row back := by
  obtain ⟨out, hout, hlength, hback⟩ := h
  have hfull : out.length = width mode f := by
    unfold width
    rw [hlength, hwidth]
  refine ⟨out, ?_, hfull.le, ?_⟩
  · rw [encode_child_of_given hgiven (.inr (by rw [hinner]; rfl))]
    unfold encode_given
    rw [if_pos htype, hinner]
    show (s.encode_structure u mode inner _).map some = _
    rw [hout]
    rfl
  · rw [hfull, Nat.sub_self, List.replicate_zero, List.append_nil]
    unfold decode_span
    rw [if_pos htype, hinner]
    exact hback

omit hgiven in
/-- Rows of a table, one after the other. -/
theorem rows_read_back {inner : TypeDesc} {rows backs : List (PyVal L)}
    (h : List.Forall₂ (RowReadsBack u s mode inner) rows backs) :
    ∃ raws, (rows.mapM fun row => s.encode_structure u mode inner row) = .ok raws ∧
      raws.length = rows.length ∧ (∀ raw ∈ raws, raw.length = (inner.row_size mode).toNat) ∧
        (raws.mapM fun raw => s.decode_structure u mode inner raw) = .ok backs := by
  induction h with
  | nil => exact ⟨[], rfl, rfl, nofun, rfl⟩
  | cons hrow _ ih =>
    obtain ⟨out, hout, hlength, hback⟩ := hrow
    obtain ⟨raws, hraws, hcount, hlengths, hbacks⟩ := ih
    exact ⟨out :: raws, Eff.except_mapM_cons_eq_ok.mpr ⟨out, raws, hout, hraws, rfl⟩,
      congrArg (· + 1) hcount, List.forall_mem_cons.mpr ⟨hlength, hlengths⟩,
      Eff.except_mapM_cons_eq_ok.mpr ⟨_, _, hback, hbacks, rfl⟩⟩

/-- A table in a row whose rows fill the span. -/
theorem table_field_reads_back (htype : f.rfctype = RFCTYPE_TABLE) {inner : TypeDesc}
    (hinner : f.type_desc = some inner) (hsize : 0 < inner.row_size mode)
    {rows backs : List (PyVal L)}
    (hrows : s.items_of (given.getD (s.default_field_value f.rfctype)) = .ok rows)
    (hwidth : (rows.length : ℤ) * inner.row_size mode = (f.span mode).2)
    (h : List.Forall₂ (RowReadsBack u s mode inner) rows backs) :
    FieldReadsBack u s mode f row (.list backs) := by
  have hnot : ¬ f.rfctype = RFCTYPE_STRUCTURE := by
    rw [htype]
    decide
  obtain ⟨raws, hraws, hcount, hlengths, hbacks⟩ := rows_read_back h
  obtain ⟨w, hw⟩ := Int.eq_ofNat_of_zero_le hsize.le
  rw [hw, Int.toNat_natCast] at hlengths
  have hfull : raws.flatten.length = width mode f := by
    unfold width
    rw [length_flatten_of_width hlengths, hcount, ← hwidth, hw, ← Nat.cast_mul, Int.toNat_natCast]
  refine ⟨raws.flatten, ?_, hfull.le, ?_⟩
  · rw [encode_child_of_given hgiven (.inr (by rw [hinner]; rfl))]
    unfold encode_given
    rw [if_neg hnot, if_pos htype, hinner]
    simp only [hrows, hraws, Eff.except_ok_bind]
    rfl
  · rw [hfull, Nat.sub_self, List.replicate_zero, List.append_nil]
    unfold decode_span
    rw [if_neg hnot, if_pos htype, hinner]
    dsimp only
    rw [hw, TableRows.table_rows_declared (by omega) hlengths, hbacks]
    rfl

end Fields

end SapRfc.Analysis.RowLayouts
