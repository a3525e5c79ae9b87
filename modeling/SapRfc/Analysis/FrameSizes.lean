import SapRfc.Program.GatewayFrames

/-!
# Frames keep their size

Five frames have a size that the protocol fixes.  Whatever they are built from, they have that
size, every value stands in its own field, cut and filled to the field's width, and all other
bytes are the same for all arguments.
-/

set_option autoImplicit false

namespace SapRfc.Analysis.FrameSizes

open SapRfc.Library SapRfc.Library.Layouts SapRfc.Program

/-! ## Layouts -/

/-- A field of a frame and what it holds. -/
structure Field where
  start : ℕ
  width : ℕ
  text : Bytes

/-- The offset is in the field. -/
def Field.Has (f : Field) (i : ℕ) : Prop := f.start ≤ i ∧ i < f.start + f.width

/-- What is built has the size.  Each of the fields holds its text, which fills it, and outside of
them the frames of all arguments agree. -/
structure KeepsLayout {β : Type} (size : ℕ) (build : β → Except PyError Bytes)
    (fields : β → List Field) : Prop where
  size : ∀ a frame, build a = .ok frame → frame.length = size
  holds : ∀ a frame, build a = .ok frame → ∀ f ∈ fields a,
    f.text.length = f.width ∧ slice frame f.start (f.start + f.width) = f.text
  others : ∀ a a' frame frame', build a = .ok frame → build a' = .ok frame' →
    ∀ i, (∀ f ∈ fields a, ¬ f.Has i) → frame[i]? = frame'[i]?

/-- A text that is filled with zeros. -/
def filled (width : ℕ) (raw : Bytes) : Bytes := raw ++ List.replicate (width - raw.length) 0

theorem length_filled {width : ℕ} {raw : Bytes} (h : raw.length ≤ width) :
    (filled width raw).length = width := by
  rw [filled, List.length_append, List.length_replicate]
  omega

/-- The field of a slot. -/
def field {τ : Type} (t : τ) (s : Slot τ UInt8) : Field :=
  ⟨s.start, s.width, filled s.width (s.text t)⟩

/-- INTERNAL: a slice of zeros. -/
theorem slice_zeros {size lo hi : ℕ} (h : hi ≤ size) :
    slice (List.replicate size (0 : UInt8)) lo hi = List.replicate (hi - lo) 0 := by
  unfold slice
  rw [List.drop_replicate, List.take_replicate, Nat.min_eq_left (by omega)]

/-- A frame that is put together from slots keeps its layout. -/
theorem keepsLayout_of_slots {β τ : Type} {size : ℕ} {build : β → Except PyError Bytes}
    {fields : β → List Field} (slots : List (Slot τ UInt8)) (hinside : Slot.Inside slots size)
    (hordered : Slot.Ordered slots)
    (h : ∀ a frame, build a = .ok frame → ∃ t : τ,
      frame = overwriteAll (List.replicate size 0) (slots.map (Slot.cell t)) ∧
        fields a = (slots.filter Slot.own).map (field t)) :
    KeepsLayout size build fields := by
  have hzeros : (List.replicate size (0 : UInt8)).length = size := List.length_replicate
  have hsize : Slot.Inside slots (List.replicate size (0 : UInt8)).length := hzeros.symm ▸ hinside
  constructor
  · intro a frame hframe
    obtain ⟨t, rfl, -⟩ := h a frame hframe
    rw [length_overwriteAll (hsize.cells t), hzeros]
  · intro a frame hframe f hf
    obtain ⟨t, rfl, hfields⟩ := h a frame hframe
    rw [hfields] at hf
    obtain ⟨s, hs, rfl⟩ := List.mem_map.mp hf
    have hmem := List.mem_of_mem_filter hs
    have hcell := slice_overwriteAll_of_mem (hsize.cells t) (hordered.apart t)
      (List.mem_map_of_mem hmem)
    refine ⟨length_filled (s.fits t), ?_⟩
    have hend : s.start + s.width ≤ size := hinside (s.start, s.width) (List.mem_map_of_mem hmem)
    have hrest : s.start + s.width - (s.start + (s.text t).length) =
        s.width - (s.text t).length := by omega
    show slice _ s.start (s.start + s.width) = s.text t ++ _
    rw [← hrest, ← slice_zeros hend]
    exact hcell
  · intro a a' frame frame' hframe hframe' i hi
    obtain ⟨t, rfl, hfields⟩ := h a frame hframe
    obtain ⟨t', rfl, -⟩ := h a' frame' hframe'
    apply Slot.getElem?_overwriteAll_congr _ _ _ hsize rfl rfl
    intro s hs hlo hhi
    cases hown : s.own with
    | false => exact s.same hown t t'
    | true =>
      have hf : field t s ∈ fields a := by
        rw [hfields]
        exact List.mem_map_of_mem (List.mem_filter.mpr ⟨hs, hown⟩)
      exact absurd ⟨hlo, hhi⟩ (hi _ hf)

/-! ## The first frame of a session -/

/-- INTERNAL: a text that fills its field. -/
theorem filled_eq {width : ℕ} {raw : Bytes} (h : raw.length = width) : filled width raw = raw := by
  rw [filled, h, Nat.sub_self, List.replicate_zero, List.append_nil]

/-- The field of the caller's address. -/
def niFields (u : Unicode) : Session × Option PyStr → List Field
  | (_, local_ip) => [⟨2, 4, ipv4_octets u local_ip⟩]

/-- The version frame behind the address. -/
def niRest : Bytes :=
  List.replicate 4 0 ++ encodeAsciiReplace (lit "python3" ++ [0]) ++ List.replicate 2 0 ++
    encodeAsciiReplace (lit "1100") ++ List.replicate 4 0 ++ toBE 2 0x0006 ++
    encodeAsciiReplace (lit "titan   python3         ") ++ toBE 2 0x06CB ++ toBE 2 0xFFFF ++
    List.replicate 6 0

/-- INTERNAL: the address stands behind the type of the frame. -/
theorem build_ni_version_request_eq (u : Unicode) (local_ip : Option PyStr) :
    build_ni_version_request u local_ip =
      toBE 2 0x0203 ++ (ipv4_octets u local_ip ++ niRest) := by
  unfold build_ni_version_request niRest
  simp only [List.append_assoc]

theorem start_keepsLayout (u : Unicode) :
    KeepsLayout 64 (fun (session, local_ip) => (Eff.run (start u local_ip) session).1)
      (niFields u) := by
  have hip := length_ipv4_octets u
  have hrun : ∀ session local_ip, (Eff.run (start u local_ip) session).1 =
      .ok (build_ni_version_request u local_ip) := fun _ _ => rfl
  constructor
  · rintro ⟨session, local_ip⟩ frame hframe
    rw [← Except.ok.inj ((hrun session local_ip).symm.trans hframe)]
    exact length_build_ni_version_request u local_ip
  · rintro ⟨session, local_ip⟩ frame hframe f hf
    obtain rfl := List.mem_singleton.mp hf
    refine ⟨hip local_ip, ?_⟩
    have hslice := slice_append_right (toBE 2 0x0203) (ipv4_octets u local_ip ++ niRest) 0 4
    rw [length_toBE, slice_zero, List.take_left' (hip local_ip)] at hslice
    rw [← Except.ok.inj ((hrun session local_ip).symm.trans hframe), build_ni_version_request_eq]
    exact hslice
  · rintro ⟨session, local_ip⟩ ⟨session', other⟩ frame frame' hframe hframe' i hi
    have hout : ¬ (2 ≤ i ∧ i < 2 + 4) := hi _ List.mem_cons_self
    rw [← Except.ok.inj ((hrun session local_ip).symm.trans hframe),
      ← Except.ok.inj ((hrun session' other).symm.trans hframe'), build_ni_version_request_eq,
      build_ni_version_request_eq]
    apply getElem?_append_middle _ _ ((hip local_ip).trans (hip other).symm)
    rw [length_toBE, hip]
    omega

/-! ## The frames of a client -/

/-- The first eight characters of a host, filled with blanks. -/
def host8 (gwhost : PyStr) : Bytes := ascii (ljust 8 (gwhost.take 8))

theorem length_host8 (gwhost : PyStr) : (host8 gwhost).length = 8 := by
  unfold host8 ascii ljust
  simp only [List.length_map, List.length_append, List.length_take, List.length_replicate]
  omega

/-- A number below a hundred has two digits. -/
theorem length_format02d {n : ℤ} (h0 : 0 ≤ n) (h : n ≤ 99) : (format02d n).length = 2 := by
  obtain ⟨k, rfl⟩ := Int.eq_ofNat_of_zero_le h0
  have hk : k < 100 := by omega
  have hall : ∀ m : ℕ, m < 100 → (format02d (m : ℤ)).length = 2 := by
    decide +kernel
  exact hall k hk

theorem validate_sysnr_eq_ok {u : Unicode} {n value : ℤ}
    (h : validate_sysnr u (.int n) = .ok value) : value = n ∧ 0 ≤ n ∧ n ≤ 99 := by
  unfold validate_sysnr at h
  change (if n < 0 ∨ 99 < n then Except.error _ else Except.ok n) = _ at h
  split at h
  · cases h
  · cases h
    exact ⟨rfl, by omega, by omega⟩

/-- What a connect request is built from, cut to the width of its fields. -/
structure ConnectTexts where
  flag : UInt8
  host8 : Bytes
  host8_length : host8.length = 8
  dp : Bytes
  dp_length : dp.length = 8
  session_id : Bytes
  session_id_length : session_id.length = 32
  ip : Bytes
  hn : Bytes
  svc : Bytes

/-- The layout of the connect request up to the byte that SNC changes and behind it. -/
def connectHeadSlots : List (Slot ConnectTexts UInt8) :=
  [.fixed 0 (toBE 2 GW_TYPE_CONNECT), .fixed 2 (toBE 2 GW_VERSION), .fixed 4 (toBE 4 GW_FLAGS),
   .fixed 8 [0x00, 0x00], .ofOwn 10 1 (fun t => [t.flag]) fun _ => Nat.le_refl _,
   .fixed 11 [0x00, 0x00, 0x00, 0x00, 0x00, 0xC0, 0x00, 0x00, 0x00, 0x00, 0x04, 0x00, 0x00, 0x00,
     0x00, 0x01, 0x75]]

/-- The layout of the rest. -/
def connectTailSlots : List (Slot ConnectTexts UInt8) :=
  [.fixed 28 [0x00, 0x00, 0x05, 0x00, 0x00, 0x00, 0x00, 0x00],
   .fixed 40 (encodeAsciiReplace (lit "        ")),
   .fixed 48 (encodeAsciiReplace (lit "NWRFC   ")),
   .ofOwn 56 8 ConnectTexts.host8 fun t => t.host8_length.le,
   .ofOwn 64 8 ConnectTexts.dp fun t => t.dp_length.le,
   .fixed 72 [0x49, 0x01, 0x00, 0x00, 0x00, 0x00, 0xFF, 0xFF],
   .fixed 80 (encodeAsciiReplace (lit "NWRFC")),
   .fixed 85 (List.replicate 27 0x20),
   .fixed 112 [0x01, 0x01],
   .fixed 114 (encodeAsciiReplace (lit "CPIC")),
   .ofOwn 122 32 ConnectTexts.session_id fun t => t.session_id_length.le,
   .fixed 156 [0x00, 0x01, 0xFF, 0xFF, 0xFF, 0xFE, 0xFF, 0xFF, 0xFF, 0xFE, 0x02, 0x00, 0x00, 0x00,
     0x00, 0x00],
   .ofOwn 185 16 (fun t => t.ip.take 16) fun _ => List.length_take_le ..,
   .ofOwn 329 16 (fun t => t.hn.take 16) fun _ => List.length_take_le ..,
   .ofOwn 389 8 (fun t => t.svc.take 8) fun _ => List.length_take_le ..]

/-- The fields of a connect request: the mark of SNC, the host twice, the system number twice, the
session's id and the client's own name. -/
def connectFields : Host × PyStr × Sysnr × Bool → List Field
  | (env, gwhost, sysnr, snc) =>
    let service := lit "sapdp" ++ format02d (match sysnr with | .int n => n | .str _ => 0)
    [⟨10, 1, [if snc then 0x21 else 0x01]⟩,
     ⟨56, 8, host8 gwhost⟩,
     ⟨64, 8, ascii (service ++ lit " ")⟩,
     ⟨122, 32, ascii (hexBytes env.random)⟩,
     ⟨185, 16, filled 16 ((ascii gwhost ++ [0]).take 16)⟩,
     ⟨329, 16, filled 16 (env.hn.take 16)⟩,
     ⟨389, 8, ascii (service ++ [0])⟩]

/-- INTERNAL: the cells of the first bytes. -/
def headCells (flag : UInt8) : List (Cell UInt8) :=
  [⟨0, 2, toBE 2 GW_TYPE_CONNECT, by decide⟩, ⟨2, 2, toBE 2 GW_VERSION, by decide⟩,
   ⟨4, 4, toBE 4 GW_FLAGS, by decide⟩, ⟨8, 2, [0x00, 0x00], by decide⟩,
   ⟨10, 1, [flag], Nat.le_refl _⟩,
   ⟨11, 17, [0x00, 0x00, 0x00, 0x00, 0x00, 0xC0, 0x00, 0x00, 0x00, 0x00, 0x04, 0x00, 0x00, 0x00,
     0x00, 0x01, 0x75], by decide⟩]

/-- INTERNAL: the first bytes, with the mark of SNC. -/
theorem connect_head_eq (snc : Bool) :
    (if snc then (assignAll (List.replicate 453 0) connect_head).modify 10 (· ||| 0x20)
      else assignAll (List.replicate 453 0) connect_head) =
    overwriteAll (List.replicate 453 0) (headCells (if snc then 0x21 else 0x01)) := by
  cases snc <;> decide +kernel

/-- INTERNAL: the slots of the first bytes have these cells. -/
theorem connectHeadSlots_cells (t : ConnectTexts) :
    connectHeadSlots.map (Slot.cell t) = headCells t.flag := rfl

/-- INTERNAL: the assignments of the rest put the cells of the rest. -/
theorem connect_tail_puts (t : ConnectTexts) :
    List.Forall₂ Cell.Puts (connect_tail t.host8 t.dp t.session_id t.ip t.hn t.svc)
      (connectTailSlots.map (Slot.cell t)) := by
  have hcut : ∀ (start width : ℕ) (raw : Bytes),
      start + min raw.length width = start + (raw.take width).length := fun start width raw => by
    rw [List.length_take, Nat.min_comm]
  unfold connect_tail connectTailSlots
  simp only [List.map_cons, List.map_nil, List.forall₂_cons, List.forall₂_nil_left_iff, and_true,
    Cell.Puts, Slot.cell, Slot.fixed, Slot.ofOwn, t.host8_length, t.dp_length,
    t.session_id_length, hcut, true_and]
  decide

theorem length_hexBytes (b : Bytes) : (hexBytes b).length = 2 * b.length := by
  induction b with
  | nil => rfl
  | cons x b ih =>
    have hcons : hexBytes (x :: b) =
        [hexDigit (x.toNat / 16), hexDigit (x.toNat % 16)] ++ hexBytes b := rfl
    rw [hcons, List.length_append, ih, List.length_cons]
    simp only [List.length_cons, List.length_nil]
    omega

/-- INTERNAL: what the builder accepts is put together from the slots. -/
theorem connect_frame {u : Unicode} {env : Host} {gwhost : PyStr} {sysnr : Sysnr} {snc : Bool}
    {frame : Bytes} (h : build_gw_connect_request u env gwhost sysnr snc = .ok frame) :
    ∃ t : ConnectTexts,
      frame = overwriteAll (List.replicate 453 0)
        ((connectHeadSlots ++ connectTailSlots).map (Slot.cell t)) ∧
      connectFields (env, gwhost, sysnr, snc) =
        ((connectHeadSlots ++ connectTailSlots).filter Slot.own).map (field t) := by
  unfold build_gw_connect_request at h
  obtain ⟨_, hhost8, h⟩ := Eff.except_bind_eq_ok.mp h
  obtain ⟨number, hnumber, h⟩ := Eff.except_bind_eq_ok.mp h
  obtain ⟨_, hdp, h⟩ := Eff.except_bind_eq_ok.mp h
  obtain ⟨_, hsession, h⟩ := Eff.except_bind_eq_ok.mp h
  obtain ⟨_, hip, h⟩ := Eff.except_bind_eq_ok.mp h
  obtain ⟨service, hservice, h⟩ := Eff.except_bind_eq_ok.mp h
  obtain ⟨_, hsvc, hbuilt⟩ := Eff.except_bind_eq_ok.mp h
  cases sysnr with
  | str s => cases hservice
  | int n =>
    obtain ⟨rfl, h0, h99⟩ := validate_sysnr_eq_ok hnumber
    obtain rfl : lit "sapdp" ++ format02d number = service := Except.ok.inj hservice
    have hdigits := length_format02d h0 h99
    have hfive : (lit "sapdp").length = 5 := rfl
    have hdplen : (ascii (lit "sapdp" ++ format02d number ++ lit " ")).length = 8 := by
      rw [ascii, List.length_map, List.length_append, List.length_append, hdigits, hfive]
      rfl
    have hsvclen : (ascii (lit "sapdp" ++ format02d number ++ [0])).length = 8 := by
      rw [ascii, List.length_map, List.length_append, List.length_append, hdigits, hfive]
      rfl
    have hid : (ascii (hexBytes env.random)).length = 32 := by
      rw [ascii, List.length_map, length_hexBytes, env.random_length]
    rw [encodeAscii_eq hhost8, encodeAscii_eq hdp, encodeAscii_eq hsession, encodeAscii_eq hip,
      encodeAscii_eq hsvc, connect_head_eq] at hbuilt
    let t : ConnectTexts :=
      { flag := if snc then 0x21 else 0x01
        host8 := host8 gwhost
        host8_length := length_host8 gwhost
        dp := ascii (lit "sapdp" ++ format02d number ++ lit " ")
        dp_length := hdplen
        session_id := ascii (hexBytes env.random)
        session_id_length := hid
        ip := ascii gwhost ++ [0]
        hn := env.hn
        svc := ascii (lit "sapdp" ++ format02d number ++ [0]) }
    refine ⟨t, ?_, ?_⟩
    · rw [List.map_append, connectHeadSlots_cells, overwriteAll_append,
        ← assignAll_eq_overwriteAll _ (connect_tail_puts t)]
      exact (Except.ok.inj hbuilt).symm
    · have hcut : filled 8 (t.svc.take 8) = t.svc := by
        rw [List.take_of_length_le hsvclen.le, filled_eq hsvclen]
      show _ = [field t _, field t _, field t _, field t _, field t _, field t _, field t _]
      unfold connectFields field
      dsimp only [Slot.ofOwn]
      rw [filled_eq t.host8_length, filled_eq t.dp_length, filled_eq t.session_id_length, hcut]
      rfl

theorem gw_connect_request_keepsLayout (u : Unicode) :
    KeepsLayout 453 (fun (env, gwhost, sysnr, snc) =>
      build_gw_connect_request u env gwhost sysnr snc) connectFields := by
  apply keepsLayout_of_slots (connectHeadSlots ++ connectTailSlots)
    (by unfold Slot.Inside; decide) (by unfold Slot.Ordered; decide)
  rintro ⟨env, gwhost, sysnr, snc⟩ frame hframe
  exact connect_frame hframe

/-- A handle that the gateway has assigned. -/
abbrev Handle : Type := { handle : Bytes // handle.length = 8 }

theorem length_client_tail (snc : Bool) : (client_tail snc).length = 4 := length_toBE ..

/-- What an info frame is built from. -/
structure InfoTexts where
  handle : Handle
  gwhost : PyStr
  snc : Bool

/-- A host, filled with blanks and cut. -/
def blankFilled (width : ℕ) (gwhost : PyStr) : Bytes :=
  (ascii gwhost ++ List.replicate (width - (ascii gwhost).length) 0x20).take width

theorem length_blankFilled (width : ℕ) (gwhost : PyStr) :
    (blankFilled width gwhost).length = width := by
  rw [blankFilled, List.length_take, List.length_append, List.length_replicate]
  omega

/-- The layout of the info frame. -/
def infoSlots : List (Slot InfoTexts UInt8) :=
  [.fixed 0 (toBE 2 GW_TYPE_INFO), .fixed 2 (toBE 2 GW_VERSION), .fixed 4 (toBE 4 GW_FLAGS),
   .fixed 8 [0x00, 0x00, 0x01, 0x00], .fixed 24 [0x00, 0x00, 0x00, 0x90],
   .fixed 28 [0x00, 0x00, 0x04, 0x00],
   .ofOwn 40 8 (fun t => t.handle.1) fun t => t.handle.2.le,
   .ofOwn 48 8 (fun t => host8 t.gwhost) fun t => (length_host8 t.gwhost).le,
   .ofOwn 56 4 (fun t => toBE 4 t.gwhost.length) fun _ => (length_toBE ..).le,
   .ofOwn 76 4 (fun t => client_tail t.snc) fun t => (length_client_tail t.snc).le,
   .ofOwn 80 112 (fun t => blankFilled 112 t.gwhost) fun t => (length_blankFilled 112 t.gwhost).le]

/-- The fields of an info frame: the handle, the host's first characters, its length, the mark of
SNC, and the host. -/
def infoFields : Handle × PyStr × Bool → List Field
  | (handle, gwhost, snc) =>
    [⟨40, 8, handle.1⟩, ⟨48, 8, host8 gwhost⟩, ⟨56, 4, toBE 4 gwhost.length⟩,
     ⟨76, 4, client_tail snc⟩, ⟨80, 112, blankFilled 112 gwhost⟩]

theorem gw_info_keepsLayout :
    KeepsLayout 224 (fun (handle, gwhost, snc) => build_gw_info handle.1 gwhost snc)
      infoFields := by
  apply keepsLayout_of_slots infoSlots (by unfold Slot.Inside; decide)
    (by unfold Slot.Ordered; decide)
  rintro ⟨handle, gwhost, snc⟩ frame h
  unfold build_gw_info at h
  obtain ⟨_, hhost8, h⟩ := Eff.except_bind_eq_ok.mp h
  obtain ⟨_, hlength, h⟩ := Eff.except_bind_eq_ok.mp h
  obtain ⟨_, hip, h⟩ := Eff.except_bind_eq_ok.mp h
  obtain rfl : _ = host8 gwhost := encodeAscii_eq hhost8
  rw [(pack_u32_natCast_eq_ok.mp hlength).2, encodeAscii_eq hip] at h
  refine ⟨⟨handle, gwhost, snc⟩, ?_, ?_⟩
  · rw [← Except.ok.inj h]
    apply assignAll_eq_overwriteAll
    have hcut := length_blankFilled 112 gwhost
    unfold blankFilled at hcut
    simp only [infoSlots, List.map_cons, List.map_nil, List.forall₂_cons,
      List.forall₂_nil_left_iff, and_true, Cell.Puts, Slot.cell, Slot.fixed, Slot.ofOwn, handle.2,
      length_host8, length_client_tail, length_toBE, blankFilled, hcut, true_and]
    decide
  · show _ = [field _ _, field _ _, field _ _, field _ _, field _ _]
    unfold infoFields field
    dsimp only [Slot.ofOwn]
    rw [filled_eq handle.2, filled_eq (length_host8 gwhost), filled_eq (length_toBE ..),
      filled_eq (length_client_tail snc), filled_eq (length_blankFilled 112 gwhost)]

/-- The layout of the done frame. -/
def doneSlots : List (Slot (Handle × Bool) UInt8) :=
  [.fixed 0 (toBE 2 GW_TYPE_DONE), .fixed 2 (toBE 2 GW_VERSION), .fixed 4 (toBE 4 GW_FLAGS),
   .fixed 28 [0x00, 0x00, 0x01, 0x00],
   .ofOwn 40 8 (fun t => t.1.1) fun t => t.1.2.le,
   .ofOwn 76 4 (fun t => client_tail t.2) fun t => (length_client_tail t.2).le]

/-- The fields of a done frame: the handle and the mark of SNC. -/
def doneFields : Handle × Bool → List Field
  | (handle, snc) => [⟨40, 8, handle.1⟩, ⟨76, 4, client_tail snc⟩]

theorem gw_done_client_keepsLayout :
    KeepsLayout 80 (fun (handle, snc) => .ok (build_gw_done_client handle.1 snc)) doneFields := by
  apply keepsLayout_of_slots doneSlots (by unfold Slot.Inside; decide)
    (by unfold Slot.Ordered; decide)
  rintro ⟨handle, snc⟩ frame h
  refine ⟨(handle, snc), ?_, ?_⟩
  · rw [← Except.ok.inj h]
    apply assignAll_eq_overwriteAll
    simp only [doneSlots, List.map_cons, List.map_nil, List.forall₂_cons,
      List.forall₂_nil_left_iff, and_true, Cell.Puts, Slot.cell, Slot.fixed, Slot.ofOwn, handle.2,
      length_client_tail, length_toBE, true_and]
    decide
  · show _ = [field _ _, field _ _]
    unfold doneFields field
    dsimp only [Slot.ofOwn]
    rw [filled_eq handle.2, filled_eq (length_client_tail snc)]

/-! ## The frame of a registered server -/

/-- The registrations that a server can have: before its acknowledgement, and after any. -/
inductive Registered : Registration → Prop
  | init : Registered .init
  | ack (data : Bytes) (r : Registration) (h : handle_registration_ack data = .ok r) : Registered r

/-- A registration has a handle of eight bytes or none, and a tail of two. -/
theorem Registered.lengths {r : Registration} (h : Registered r) :
    r.handle_or_blank.length = 8 ∧ r.ack_tail.length = 2 := by
  cases h with
  | init => exact ⟨rfl, rfl⟩
  | ack data _ h =>
    unfold handle_registration_ack at h
    split at h
    · cases h
    · cases h
      have hhandle : (slice data 40 48).length = 8 := by
        rw [length_slice]
        omega
      refine ⟨?_, ?_⟩
      · unfold Registration.handle_or_blank
        cases hslice : slice data 40 48 with
        | nil => rfl
        | cons b rest =>
          rw [hslice] at hhandle
          exact hhandle
      · rw [length_slice]
        omega

/-- What a registration frame is built from. -/
structure PostTexts where
  handle : Handle
  ack_tail : Bytes
  ack_tail_length : ack_tail.length = 2
  ip : Bytes
  ip_length : ip.length ≤ 128

namespace PostTexts

/-- The address, cut to eight bytes or filled with blanks. -/
def ip8 (t : PostTexts) : Bytes := t.ip.take 8 ++ List.replicate (8 - (t.ip.take 8).length) 0x20

/-- The address, filled with blanks. -/
def host (t : PostTexts) : Bytes := t.ip ++ List.replicate (208 - 80 - t.ip.length) 0x20

theorem length_ip8 (t : PostTexts) : t.ip8.length = 8 := by
  rw [ip8, List.length_append, List.length_replicate, List.length_take]
  omega

theorem length_host (t : PostTexts) : t.host.length = 128 := by
  have hle := t.ip_length
  rw [host, List.length_append, List.length_replicate]
  omega

end PostTexts

/-- The layout of the registration frame in front of the address. -/
def postHeadSlots : List (Slot PostTexts UInt8) :=
  [.fixed 0 [0x06, 0x0F], .fixed 2 [0x02, 0x00], .fixed 4 [0xFF, 0xFF],
   .fixed 8 [0x00, 0x00, 0x01, 0x00], .fixed 20 (toBE 4 0x00009000), .fixed 24 (toBE 4 0x00040000),
   .ofOwn 40 8 (fun t => t.handle.1) fun t => t.handle.2.le,
   .ofOwn 48 8 PostTexts.ip8 fun t => t.length_ip8.le,
   .ofOwn 56 4 (fun t => toBE 4 t.ip.length) fun _ => (length_toBE ..).le,
   .fixed 76 [0xFF, 0xFF],
   .ofOwn 78 2 PostTexts.ack_tail fun t => t.ack_tail_length.le]

/-- The layout of the registration frame. -/
def postSlots : List (Slot PostTexts UInt8) :=
  postHeadSlots ++ [.ofOwn 80 128 PostTexts.host fun t => t.length_host.le]

/-- The fields of a registration frame: the handle, the first characters of the address, its
length, the tail of the acknowledgement, and the address. -/
def postFields : { r : Registration // Registered r } × PyStr → List Field
  | (r, gw_ip) =>
    [⟨40, 8, r.1.handle_or_blank⟩, ⟨48, 8, host8 gw_ip⟩, ⟨56, 4, toBE 4 gw_ip.length⟩,
     ⟨78, 2, r.1.ack_tail⟩, ⟨80, 128, blankFilled 128 gw_ip⟩]

/-- The assignments of a registration frame in front of the address. -/
def postHead (t : PostTexts) : List (ℕ × ℕ × Bytes) :=
  [(0, 2, [0x06, 0x0F]), (2, 4, [0x02, 0x00]), (4, 6, [0xFF, 0xFF]),
   (8, 12, [0x00, 0x00, 0x01, 0x00]), (20, 24, toBE 4 0x00009000), (24, 28, toBE 4 0x00040000),
   (40, 48, t.handle.1), (48, 56, t.ip8), (56, 60, toBE 4 t.ip.length), (76, 78, [0xFF, 0xFF]),
   (78, 80, t.ack_tail)]

theorem postHead_puts (t : PostTexts) :
    List.Forall₂ Cell.Puts (postHead t) (postHeadSlots.map (Slot.cell t)) := by
  simp only [postHead, postHeadSlots, List.map_cons, List.map_nil, List.forall₂_cons,
    List.forall₂_nil_left_iff, and_true, Cell.Puts, Slot.cell, Slot.fixed, Slot.ofOwn, t.handle.2,
    t.length_ip8, t.ack_tail_length, length_toBE, true_and]
  decide

/-- INTERNAL: the address and its blanks are put into one cell. -/
theorem post_frame_eq (t : PostTexts) :
    assignAll (List.replicate 224 0) (postHead t ++
      [(80, 80 + t.ip.length, t.ip),
       (80 + t.ip.length, 208, List.replicate (208 - 80 - t.ip.length) 0x20)]) =
      overwriteAll (List.replicate 224 0) (postSlots.map (Slot.cell t)) := by
  have hle := t.ip_length
  have hlong : (overwriteAll (List.replicate 224 (0 : UInt8))
      (postHeadSlots.map (Slot.cell t))).length = 224 := by
    have hinside : Slot.Inside postHeadSlots 224 := by
      unfold Slot.Inside
      decide
    rw [length_overwriteAll (by rw [List.length_replicate]; exact hinside.cells t),
      List.length_replicate]
  rw [assignAll_append, assignAll_eq_overwriteAll _ (postHead_puts t), postSlots, List.map_append,
    overwriteAll_append]
  show assign (assign _ 80 (80 + t.ip.length) t.ip) (80 + t.ip.length) 208
    (List.replicate (208 - 80 - t.ip.length) 0x20) = overwrite _ 80 t.host
  rw [assign_eq_overwrite _ rfl, assign_eq_overwrite _ (by rw [List.length_replicate]; omega),
    overwrite_overwrite_behind (by omega), PostTexts.host]

/-- INTERNAL: the first characters of an address that is ASCII. -/
theorem ip8_eq_host8 (gw_ip : PyStr) :
    (ascii gw_ip).take 8 ++ List.replicate (8 - ((ascii gw_ip).take 8).length) 0x20 =
      host8 gw_ip := by
  unfold host8 ascii ljust
  rw [List.map_append, List.map_take, List.map_replicate, List.length_take, List.length_map,
    List.length_take]
  rfl

theorem post_reg_a_keepsLayout (u : Unicode) :
    KeepsLayout 224 (fun (r, gw_ip) => build_post_reg_a u r.1 gw_ip) postFields := by
  apply keepsLayout_of_slots postSlots (by unfold Slot.Inside; decide)
    (by unfold Slot.Ordered; decide)
  rintro ⟨⟨r, hr⟩, gw_ip⟩ frame h
  obtain ⟨hhandle, htail⟩ := hr.lengths
  dsimp only at h
  unfold build_post_reg_a at h
  cases hip : encodeAscii gw_ip with
  | error e =>
    rw [hip] at h
    cases h
  | ok ip =>
    obtain rfl : ip = ascii gw_ip := encodeAscii_eq hip
    rw [hip] at h
    dsimp only at h
    split at h
    · cases h
    · next hle =>
      have hlength : (ascii gw_ip).length = gw_ip.length := List.length_map ..
      have hle' : (ascii gw_ip).length ≤ 128 := Nat.le_of_not_lt hle
      let t : PostTexts := ⟨⟨r.handle_or_blank, hhandle⟩, r.ack_tail, htail, ascii gw_ip, hle'⟩
      have hhost : blankFilled 128 gw_ip = t.host := by
        unfold blankFilled
        rw [List.take_of_length_le (by rw [List.length_append, List.length_replicate]; omega)]
        rfl
      refine ⟨t, ?_, ?_⟩
      · rw [← Except.ok.inj h, ← post_frame_eq t]
        rfl
      · show _ = [field t _, field t _, field t _, field t _, field t _]
        unfold postFields field
        dsimp only [Slot.ofOwn]
        rw [filled_eq t.handle.2, filled_eq t.length_ip8, filled_eq (length_toBE ..),
          filled_eq t.ack_tail_length, filled_eq t.length_host, hhost, ← ip8_eq_host8, ← hlength]
        rfl

/-! ## All five -/

/-- The fixed frames have their size, and every value that a caller supplies stands in its own
field, whatever it is: the version frame of a session's start, the connect request, the info frame
and the done frame of a client, and the frame behind a registration. -/
theorem fixed_frames_keepLayout (u : Unicode) :
    KeepsLayout 64 (fun (session, local_ip) => (Eff.run (start u local_ip) session).1)
        (niFields u) ∧
      KeepsLayout 453 (fun (env, gwhost, sysnr, snc) =>
        build_gw_connect_request u env gwhost sysnr snc) connectFields ∧
      KeepsLayout 224 (fun (handle, gwhost, snc) => build_gw_info handle.1 gwhost snc)
        infoFields ∧
      KeepsLayout 80 (fun (handle, snc) => .ok (build_gw_done_client handle.1 snc)) doneFields ∧
      KeepsLayout 224 (fun (r, gw_ip) => build_post_reg_a u r.1 gw_ip) postFields :=
  ⟨start_keepsLayout u, gw_connect_request_keepsLayout u, gw_info_keepsLayout,
    gw_done_client_keepsLayout, post_reg_a_keepsLayout u⟩

end SapRfc.Analysis.FrameSizes
