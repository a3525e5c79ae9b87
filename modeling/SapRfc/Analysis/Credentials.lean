import SapRfc.Library.BitPacking
import SapRfc.Program.Server
import SapRfc.Analysis.TextCodecs
import SapRfc.Analysis.TraceRedaction

/-!
# Credentials

The logon body is a stream of records, and a server reads the user and the password out of it.
The scramble is its own inverse, so the password comes back.  The user is written in single
bytes and read as UTF-16LE where that is possible, so it comes back when it has an odd number of
characters.  A value of 65535 bytes is written with a length that announces another one; its
first four bytes are read as that, and where they announce more than there is nothing comes back.
-/

set_option autoImplicit false

namespace SapRfc.Analysis.Credentials

open SapRfc.Library SapRfc.Program
open TextCodecs

/-! ## The password -/

/-- INTERNAL: the keystream does not depend on the buffer. -/
theorem ab_scramble_loop_twice (seed : ℕ) (buf : Bytes) : ∀ i k ck,
    ab_scramble_loop seed (ab_scramble_loop seed buf i k ck) i k ck = buf := by
  induction buf with
  | nil => exact fun _ _ _ => rfl
  | cons b rest ih =>
    intro i k ck
    rw [ab_scramble_loop, ab_scramble_loop, ih, UInt8.xor_assoc, UInt8.xor_self, UInt8.xor_zero]

/-- The scramble is its own inverse. -/
theorem ab_scramble_twice (buf : Bytes) (seed : ℕ) :
    ab_scramble (ab_scramble buf seed) seed = buf :=
  ab_scramble_loop_twice seed buf _ _ _

theorem decodeLatin1_encode {s : PyStr} (h : ∀ c ∈ s, c < 256) :
    decodeLatin1 (encodeLatin1Replace s) = s := by
  unfold decodeLatin1 encodeLatin1Replace
  rw [List.map_map]
  refine (List.map_congr_left fun c hc => ?_).trans (List.map_id s)
  show (if c < 256 then UInt8.ofNat c else 63).toNat = c
  rw [if_pos (h c hc), UInt8.toNat_ofNat', Nat.mod_eq_of_lt (h c hc)]

/-- The password that the server makes of the value of the record. -/
theorem unscramble_password {passwd : PyStr} (seed : Option ℤ) (nonce : Bytes)
    (hlatin : ∀ c ∈ passwd, c < 256) :
    4 ≤ (scramble_password passwd seed nonce).length ∧
      decodeLatin1 (ab_scramble ((scramble_password passwd seed nonce).drop 4)
        (ofLE ((scramble_password passwd seed nonce).take 4))) = passwd := by
  have hseed : ∃ n < 256 ^ 4, scramble_password passwd seed nonce =
      toLE 4 n ++ ab_scramble (encodeLatin1Replace passwd) n := by
    unfold scramble_password
    cases seed with
    | none => exact ⟨_, Nat.mod_lt _ (by decide), rfl⟩
    | some seed =>
      refine ⟨(seed % 2 ^ 32).toNat, ?_, rfl⟩
      have hlow := Int.emod_nonneg seed (show (2 ^ 32 : ℤ) ≠ 0 by decide)
      have hhigh := Int.emod_lt_of_pos seed (show (0 : ℤ) < 2 ^ 32 by decide)
      omega
  obtain ⟨n, hn, hvalue⟩ := hseed
  have hlength : (toLE 4 n).length = 4 := length_toLE 4 n
  rw [hvalue]
  constructor
  · rw [List.length_append, hlength]
    omega
  · rw [List.drop_left' hlength, List.take_left' hlength, ofLE_toLE hn, ab_scramble_twice,
      decodeLatin1_encode hlatin]

/-! ## The user -/

theorem decodeAscii_encode {s : PyStr} (h : ∀ c ∈ s, c < 128) :
    decodeAsciiReplace (encodeAsciiReplace s) = s := by
  unfold decodeAsciiReplace encodeAsciiReplace
  rw [List.map_map]
  refine (List.map_congr_left fun c hc => ?_).trans (List.map_id s)
  have hbyte : (UInt8.ofNat c).toNat = c := by
    rw [UInt8.toNat_ofNat', Nat.mod_eq_of_lt (by have := h c hc; omega)]
  show (if (if c < 128 then UInt8.ofNat c else 63).toNat < 128 then
    (if c < 128 then UInt8.ofNat c else 63).toNat else 0xFFFD) = c
  rw [if_pos (h c hc), hbyte, if_pos (h c hc)]

/-- INTERNAL: two ASCII bytes are no half of a surrogate pair. -/
theorem utf16Units_ascii : ∀ {b : Bytes}, (∀ x ∈ b, x.toNat < 128) →
    ∀ v ∈ utf16Units b, v < 0x8000
  | [], _ => nofun
  | [_], _ => nofun
  | x :: y :: rest, h => by
    intro v hv
    rw [utf16Units] at hv
    rcases List.mem_cons.mp hv with rfl | hv
    · have hx := h x List.mem_cons_self
      have hy := h y (List.mem_cons_of_mem _ List.mem_cons_self)
      omega
    · exact utf16Units_ascii
        (fun z hz => h z (List.mem_cons_of_mem _ (List.mem_cons_of_mem _ hz))) v hv

theorem length_utf16Units : ∀ b : Bytes, (utf16Units b).length = b.length / 2
  | [] => rfl
  | [x] => by
    rw [List.length_singleton]
    rfl
  | x :: y :: rest => by
    rw [utf16Units, List.length_cons, length_utf16Units rest, List.length_cons, List.length_cons]
    omega

/-- INTERNAL: units below the surrogates are the characters. -/
theorem utf16Chars_plain : ∀ {units : List ℕ}, (∀ v ∈ units, v < 0x8000) →
    utf16Chars units = units.map some
  | [], _ => rfl
  | v :: rest, h => by
    have hv := h v List.mem_cons_self
    have hunit : unitsOf v = [v] := if_pos (by omega)
    have hplain : isSurrogate v = false := by
      unfold isSurrogate
      rw [decide_eq_false_iff_not]
      omega
    have hstep := utf16Chars_unitsOf (by omega) hplain rest
    rw [hunit, List.singleton_append] at hstep
    rw [hstep, utf16Chars_plain fun w hw => h w (List.mem_cons_of_mem _ hw), List.map_cons]

theorem length_rstrip_le (chars s : PyStr) : (rstrip chars s).length ≤ s.length := by
  unfold rstrip
  rw [List.length_reverse]
  exact (List.dropWhile_suffix _).length_le.trans List.length_reverse.le

/-- A text in single bytes is read back exactly when their number is odd. -/
theorem decode_utf16le_ascii_iff {s : PyStr} (hascii : ∀ c ∈ s, c < 128) (htrimmed : Trimmed s)
    (hne : s ≠ []) : decode_utf16le (encodeAsciiReplace s) = s ↔ s.length % 2 = 1 := by
  have hlength : (encodeAsciiReplace s).length = s.length := List.length_map _
  have hpositive := List.length_pos_of_ne_nil hne
  rcases Nat.mod_two_eq_zero_or_one s.length with heven | hodd
  · refine iff_of_false (fun hback => ?_) (by omega)
    have hbytes : ∀ x ∈ encodeAsciiReplace s, x.toNat < 128 := by
      intro x hx
      obtain ⟨c, hc, rfl⟩ := List.mem_map.mp hx
      rw [if_pos (hascii c hc), UInt8.toNat_ofNat',
        Nat.mod_eq_of_lt (by have := hascii c hc; omega)]
      exact hascii c hc
    have hdecoded : decodeUtf16le? (encodeAsciiReplace s) =
        some (utf16Units (encodeAsciiReplace s)) := by
      unfold decodeUtf16le?
      rw [if_neg (by omega), utf16Chars_plain (utf16Units_ascii hbytes), mapM_some]
    have hshort : (decode_utf16le (encodeAsciiReplace s)).length ≤ s.length / 2 := by
      unfold decode_utf16le
      rw [hdecoded]
      refine (length_rstrip_le _ _).trans ?_
      rw [length_utf16Units, hlength]
    rw [hback] at hshort
    omega
  · refine iff_of_true ?_ hodd
    have hnone : decodeUtf16le? (encodeAsciiReplace s) = none := by
      unfold decodeUtf16le?
      rw [if_pos (by omega)]
    unfold decode_utf16le
    rw [hnone]
    show rstrip padding (decodeAsciiReplace (encodeAsciiReplace s)) = s
    rw [decodeAscii_encode hascii]
    exact htrimmed

/-! ## The records of the body -/

/-- A record of a logon body. -/
def written (r : ℕ × Bytes) : Bytes := toBE 2 r.1 ++ toBE 2 r.2.length ++ r.2 ++ toBE 2 r.1

/-- INTERNAL: a value that fits its length field is written. -/
theorem tlv_ext_ok {tag : ℕ} {value out : Bytes} (h : tlv_ext tag value = .ok out) :
    value.length ≤ 0xFFFF ∧ out = written (tag, value) := by
  unfold tlv_ext at h
  split at h
  · cases h
  · exact ⟨by omega, (Except.ok.inj h).symm⟩

/-- INTERNAL: below the length that announces the extended form, a record is written as
everywhere else. -/
theorem written_short {r : ℕ × Bytes} (hshort : r.2.length < 0xFFFF) :
    written r = Records.encode r.1 r.2 := by
  unfold written Records.encode
  rw [if_neg (by omega)]

/-- INTERNAL: of records as wide as their length field allows, one that announces more bytes than
there are stops the walk. -/
theorem walk_written_overrun {last : ℕ} {rs : List (ℕ × Bytes)} {n : ℕ} (rest : Bytes)
    (hfit : ∀ r ∈ rs, r.1 < 256 ^ 2 ∧ r.1 ≠ last ∧ r.2.length ≤ 0xFFFF)
    (hlong : ∃ r ∈ rs, r.2.length = 0xFFFF)
    (hannounced : ∀ r ∈ rs, r.2.length = 0xFFFF → n < ofBE (r.2.take 4))
    (hn : (rs.flatMap written ++ rest).length ≤ n) :
    ∃ tag declared left, (Records.walk last (rs.flatMap written ++ rest)).ending =
      .overrun tag true declared left := by
  induction rs with
  | nil => exact absurd hlong (by simp)
  | cons r rs ih =>
    obtain ⟨htag, hne, hwidth⟩ := hfit r List.mem_cons_self
    rw [List.flatMap_cons, List.append_assoc] at hn ⊢
    by_cases hfull : r.2.length = 0xFFFF
    · have hmore := hannounced r List.mem_cons_self hfull
      have hscan : Records.scan last (written r ++ (rs.flatMap written ++ rest)) =
          .overrun r.1 true (ofBE (r.2.take 4))
            ((r.2 ++ toBE 2 r.1 ++ (rs.flatMap written ++ rest)).drop 4).length := by
        have hbody : written r ++ (rs.flatMap written ++ rest) = toBE 2 r.1 ++ toBE 2 0xFFFF ++
            (r.2 ++ toBE 2 r.1 ++ (rs.flatMap written ++ rest)) := by
          unfold written
          rw [hfull]
          simp only [List.append_assoc]
        have hfirst : (r.2 ++ toBE 2 r.1 ++ (rs.flatMap written ++ rest)).take 4 = r.2.take 4 := by
          rw [List.append_assoc, List.take_append_of_le_length (by omega)]
        have hsize : (written r ++ (rs.flatMap written ++ rest)).length =
            4 + (r.2 ++ toBE 2 r.1 ++ (rs.flatMap written ++ rest)).length := by
          rw [hbody]
          simp only [List.length_append, length_toBE]
        rw [hbody, Records.scan_header htag (by norm_num), if_neg hne, if_pos rfl,
          if_neg (by simp only [List.length_append]; omega), hfirst]
        refine Records.takeValue_of_lt true ?_
        rw [List.length_drop]
        omega
      refine ⟨r.1, _, _, (congrArg Records.Walk.ending (Records.walk_of_not_record ?_)).trans hscan⟩
      rw [hscan]
      exact nofun
    · have hrest := ih (fun q hq => hfit q (List.mem_cons_of_mem _ hq)) ?_
        (fun q hq => hannounced q (List.mem_cons_of_mem _ hq))
        (by rw [List.length_append] at hn; omega)
      · have hfits : Records.Fits last r := ⟨htag, hne, by omega⟩
        rw [written_short (by omega), Records.walk_of_record (Records.scan_encode hfits _)]
        exact hrest
      · obtain ⟨q, hq, hqlong⟩ := hlong
        rcases List.mem_cons.mp hq with rfl | hq
        · exact absurd hqlong hfull
        · exact ⟨q, hq, hqlong⟩

/-- The values of a logon whose width depends on its arguments. -/
def logonValues (env : LogonEnv) (args : LogonParams) (user : PyStr) (password : Bytes) :
    List Bytes :=
  [env.session_token, encodeAsciiReplace args.client, encodeAsciiReplace user, password, env.hn,
    args.program_name]

/-- The records of a logon body, for the bytes of the language. -/
def logonRecords (env : LogonEnv) (args : LogonParams) (user lang password : Bytes) :
    List (ℕ × Bytes) :=
  [(0x0101, TLV_CAPS), (0x0103, TLV_VER), (0x0106, TLV_CP), (0x0514, env.session_token),
    (0x0114, encodeAsciiReplace args.client), (Tag.USER, user), (Tag.PASSWORD, password),
    (0x0115, lang), (0x0501, [0x01]), (0x0007, LOCALHOST), (0x0011, lang), (0x0012, TLV_REL),
    (0x0013, TLV_REL), (0x0008, env.hn), (0x0006, TLV_PROG), (0x0130, args.program_name),
    (0x0502, []), (0x000B, TLV_REL), (0x0102, RFCPING_NAME)]

theorem length_language {u : Unicode} {lang : PyStr} {out : Bytes}
    (h : encode_logon_language u lang = .ok out) : out.length = 1 := by
  have hsap : ∀ {code : PyStr} {sap : PyStr}, language_iso_to_sap u code = .ok sap →
      sap.length = 1 := by
    intro code sap hcode
    unfold language_iso_to_sap at hcode
    dsimp only at hcode
    split at hcode
    · cases hcode
    · split at hcode
      next e hfound =>
        have hmem := List.mem_of_find?_eq_some hfound
        have hall : ∀ e ∈ SAP_TO_ISO, (lit e.1).length = 1 := by decide +kernel
        rw [← Except.ok.inj hcode]
        exact hall e hmem
      next => cases hcode
  unfold encode_logon_language at h
  obtain ⟨code, hcode, h⟩ := Eff.except_bind_eq_ok.mp h
  rw [← Except.ok.inj h, List.length_map]
  unfold normalize_logon_language at hcode
  dsimp only at hcode
  split at hcode
  · obtain ⟨one, hone, hcode⟩ := Eff.except_bind_eq_ok.mp hcode
    split at hcode
    · rw [← Except.ok.inj hcode]
      exact hsap hone
    · cases hcode
  · split at hcode
    · cases hcode
    · rename_i hnot
      rw [Eff.except_ok_bind] at hcode
      split at hcode
      · rw [← Except.ok.inj hcode]
        exact not_not.mp hnot
      · cases hcode

/-- INTERNAL: what stands in front of the password. -/
theorem logon_head_records {env : LogonEnv} {args : LogonParams} {user : PyStr} {out : Bytes}
    (huser : args.user = some user) (h : logon_head env args = .ok out) :
    (∀ v ∈ [env.session_token, encodeAsciiReplace args.client, encodeAsciiReplace user],
      v.length ≤ 0xFFFF) ∧
    out = [(0x0101, TLV_CAPS), (0x0103, TLV_VER), (0x0106, TLV_CP), (0x0514, env.session_token),
      (0x0114, encodeAsciiReplace args.client),
      (Tag.USER, encodeAsciiReplace user)].flatMap written := by
  unfold logon_head at h
  rw [huser] at h
  obtain ⟨r1, h1, h⟩ := Eff.except_bind_eq_ok.mp h
  obtain ⟨r2, h2, h⟩ := Eff.except_bind_eq_ok.mp h
  obtain ⟨r3, h3, h⟩ := Eff.except_bind_eq_ok.mp h
  obtain ⟨r4, h4, h⟩ := Eff.except_bind_eq_ok.mp h
  obtain ⟨r5, h5, h⟩ := Eff.except_bind_eq_ok.mp h
  obtain ⟨r6, h6, h⟩ := Eff.except_bind_eq_ok.mp h
  constructor
  · simp only [List.forall_mem_cons]
    exact ⟨(tlv_ext_ok h4).1, (tlv_ext_ok h5).1, (tlv_ext_ok h6).1, nofun⟩
  · rw [← Except.ok.inj h, (tlv_ext_ok h1).2, (tlv_ext_ok h2).2, (tlv_ext_ok h3).2,
      (tlv_ext_ok h4).2, (tlv_ext_ok h5).2, (tlv_ext_ok h6).2]
    simp only [List.flatMap_cons, List.flatMap_nil, List.append_nil, List.append_assoc, Tag.USER]

/-- INTERNAL: what stands behind it. -/
theorem logon_tail_records {u : Unicode} {env : LogonEnv} {args : LogonParams} {out : Bytes}
    (h : logon_tail u env args = .ok out) :
    (∀ v ∈ [env.hn, args.program_name], v.length ≤ 0xFFFF) ∧ ∃ lang rest, lang.length = 1 ∧
      out = [(0x0115, lang), (0x0501, [0x01]), (0x0007, LOCALHOST), (0x0011, lang),
        (0x0012, TLV_REL), (0x0013, TLV_REL), (0x0008, env.hn), (0x0006, TLV_PROG),
        (0x0130, args.program_name), (0x0502, []), (0x000B, TLV_REL),
        (0x0102, RFCPING_NAME)].flatMap written ++
          (Records.encode Tag.TERMINATOR [] ++ rest) := by
  unfold logon_tail at h
  obtain ⟨lang, hlang, h⟩ := Eff.except_bind_eq_ok.mp h
  have hone := length_language hlang
  obtain ⟨r1, h1, h⟩ := Eff.except_bind_eq_ok.mp h
  obtain ⟨r2, h2, h⟩ := Eff.except_bind_eq_ok.mp h
  obtain ⟨r3, h3, h⟩ := Eff.except_bind_eq_ok.mp h
  rw [hlang, Eff.except_ok_bind] at h
  obtain ⟨r4, h4, h⟩ := Eff.except_bind_eq_ok.mp h
  obtain ⟨r5, h5, h⟩ := Eff.except_bind_eq_ok.mp h
  obtain ⟨r6, h6, h⟩ := Eff.except_bind_eq_ok.mp h
  obtain ⟨r7, h7, h⟩ := Eff.except_bind_eq_ok.mp h
  obtain ⟨r8, h8, h⟩ := Eff.except_bind_eq_ok.mp h
  obtain ⟨r9, h9, h⟩ := Eff.except_bind_eq_ok.mp h
  obtain ⟨r10, h10, h⟩ := Eff.except_bind_eq_ok.mp h
  obtain ⟨r11, h11, h⟩ := Eff.except_bind_eq_ok.mp h
  obtain ⟨r12, h12, h⟩ := Eff.except_bind_eq_ok.mp h
  constructor
  · simp only [List.forall_mem_cons]
    exact ⟨(tlv_ext_ok h7).1, (tlv_ext_ok h9).1, nofun⟩
  · refine ⟨lang, [0x00, 0x00, 0x00, 0xF8, 0x00, 0x00, 0x85, 0x00], hone, ?_⟩
    rw [← Except.ok.inj h, (tlv_ext_ok h1).2, (tlv_ext_ok h2).2, (tlv_ext_ok h3).2,
      (tlv_ext_ok h4).2, (tlv_ext_ok h5).2, (tlv_ext_ok h6).2, (tlv_ext_ok h7).2,
      (tlv_ext_ok h8).2, (tlv_ext_ok h9).2, (tlv_ext_ok h10).2, (tlv_ext_ok h11).2,
      (tlv_ext_ok h12).2]
    simp only [List.flatMap_cons, List.flatMap_nil, List.append_nil, List.append_assoc]
    rfl

/-- The body is a stream of records with bytes behind its end, none wider than its length field
allows. -/
theorem logon_body_records {u : Unicode} {env : LogonEnv} {args : LogonParams}
    {user passwd : PyStr} {seed : Option ℤ} {body : Bytes} (huser : args.user = some user)
    (built : build_logon_request u env args (some passwd) seed = .ok body) :
    (∀ v ∈ logonValues env args user (scramble_password passwd seed env.nonce),
      v.length ≤ 0xFFFF) ∧ ∃ lang rest, lang.length = 1 ∧
        body = (logonRecords env args (encodeAsciiReplace user) lang
          (scramble_password passwd seed env.nonce)).flatMap written ++
            (Records.encode Tag.TERMINATOR [] ++ rest) := by
  unfold build_logon_request at built
  obtain ⟨head, hhead, built⟩ := Eff.except_bind_eq_ok.mp built
  obtain ⟨password, hpassword, built⟩ := Eff.except_bind_eq_ok.mp built
  obtain ⟨tail, htail, built⟩ := Eff.except_bind_eq_ok.mp built
  obtain ⟨hfront, rfl⟩ := logon_head_records huser hhead
  obtain ⟨hback, lang, rest, hone, rfl⟩ := logon_tail_records htail
  obtain ⟨hsecret, rfl⟩ := tlv_ext_ok hpassword
  constructor
  · unfold logonValues
    simp only [List.forall_mem_cons] at hfront hback ⊢
    exact ⟨hfront.1, hfront.2.1, hfront.2.2.1, hsecret, hback⟩
  · refine ⟨lang, rest, hone, ?_⟩
    rw [← Except.ok.inj built]
    unfold logonRecords
    simp only [List.flatMap_cons, List.flatMap_nil, List.append_nil, List.append_assoc, Tag.USER,
      Tag.PASSWORD]

/-- INTERNAL: what holds of the widths that depend on the arguments holds of all, where it holds of
the small ones. -/
theorem forall_logonRecords {P : Bytes → Prop} {env : LogonEnv} {args : LogonParams}
    {user : PyStr} {lang password : Bytes} (hlang : lang.length = 1)
    (hsmall : ∀ v : Bytes, v.length < 12 → P v)
    (h : ∀ v ∈ logonValues env args user password, P v) :
    ∀ r ∈ logonRecords env args (encodeAsciiReplace user) lang password,
      r.1 < 256 ^ 2 ∧ r.1 ≠ Tag.TERMINATOR ∧ P r.2 := by
  have hconst : ∀ {tag : ℕ} {v : Bytes}, tag < 256 ^ 2 → tag ≠ Tag.TERMINATOR → v.length < 12 →
      (tag, v).1 < 256 ^ 2 ∧ (tag, v).1 ≠ Tag.TERMINATOR ∧ P (tag, v).2 :=
    fun htag hne hv => ⟨htag, hne, hsmall _ hv⟩
  unfold logonValues at h
  simp only [List.forall_mem_cons] at h
  obtain ⟨htoken, hclient, huser, hpassword, hhn, hname, -⟩ := h
  have hone : lang.length < 12 := by omega
  unfold logonRecords
  simp only [List.forall_mem_cons]
  exact ⟨hconst (by decide) (by decide) (by decide), hconst (by decide) (by decide) (by decide),
    hconst (by decide) (by decide) (by decide), ⟨by decide, by decide, htoken⟩,
    ⟨by decide, by decide, hclient⟩, ⟨by decide, by decide, huser⟩,
    ⟨by decide, by decide, hpassword⟩, hconst (by decide) (by decide) hone,
    hconst (by decide) (by decide) (by decide), hconst (by decide) (by decide) (by decide),
    hconst (by decide) (by decide) hone, hconst (by decide) (by decide) (by decide),
    hconst (by decide) (by decide) (by decide), ⟨by decide, by decide, hhn⟩,
    hconst (by decide) (by decide) (by decide), ⟨by decide, by decide, hname⟩,
    hconst (by decide) (by decide) (by decide), hconst (by decide) (by decide) (by decide),
    hconst (by decide) (by decide) (by decide), nofun⟩

theorem mem_logonRecords {env : LogonEnv} {args : LogonParams} {user : PyStr} {password v : Bytes}
    (lang : Bytes) (h : v ∈ logonValues env args user password) :
    ∃ tag, (tag, v) ∈ logonRecords env args (encodeAsciiReplace user) lang password := by
  unfold logonValues at h
  simp only [List.mem_cons, List.not_mem_nil, or_false] at h
  unfold logonRecords
  rcases h with rfl | rfl | rfl | rfl | rfl | rfl
  · exact ⟨0x0514, by simp⟩
  · exact ⟨0x0114, by simp⟩
  · exact ⟨Tag.USER, by simp⟩
  · exact ⟨Tag.PASSWORD, by simp⟩
  · exact ⟨0x0008, by simp⟩
  · exact ⟨0x0130, by simp⟩

/-! ## What the server reads -/

theorem logonRecords_user (env : LogonEnv) (args : LogonParams) (user lang password : Bytes) :
    Tags.get (logonRecords env args user lang password) Tag.USER = some user := rfl

theorem logonRecords_password (env : LogonEnv) (args : LogonParams) (user lang password : Bytes) :
    Tags.get (logonRecords env args user lang password) Tag.PASSWORD = some password := rfl

/-- INTERNAL: the credentials are those of the records. -/
theorem extract_of_records {body : Bytes} {env : LogonEnv} {user passwd : PyStr}
    {seed : Option ℤ} {tags : Tags} (hne : user ≠ []) (hlatin : ∀ c ∈ passwd, c < 256)
    (htags : parse_tlv_stream body = .ok tags)
    (huser : tags.get Tag.USER = some (encodeAsciiReplace user))
    (hpassword : tags.get Tag.PASSWORD = some (scramble_password passwd seed env.nonce)) :
    extract_credentials body =
      .ok (some (decode_utf16le (encodeAsciiReplace user)), some passwd) := by
  obtain ⟨hfour, hback⟩ := unscramble_password seed env.nonce hlatin
  unfold extract_credentials
  rw [htags, Eff.except_ok_bind, huser, hpassword]
  dsimp only
  rw [if_pos hfour, hback]
  cases hbytes : encodeAsciiReplace user with
  | nil => exact absurd (List.map_eq_nil_iff.mp hbytes) hne
  | cons b bs => rfl

/-- Every value is shorter than the length that announces the extended form. -/
def ShortValues (env : LogonEnv) (args : LogonParams) (user passwd : PyStr) (seed : Option ℤ) :
    Prop :=
  ∀ v ∈ logonValues env args user (scramble_password passwd seed env.nonce), v.length < 0xFFFF

/-- A value of 65535 bytes announces, with the first four of them, more bytes than the body has. -/
def LongAnnounced (env : LogonEnv) (args : LogonParams) (user passwd : PyStr) (seed : Option ℤ)
    (body : Bytes) : Prop :=
  ∀ v ∈ logonValues env args user (scramble_password passwd seed env.nonce),
    v.length = 0xFFFF → body.length < ofBE (v.take 4)

section Reading

variable {u : Unicode} {env : LogonEnv} {args : LogonParams} {user passwd : PyStr}
  {seed : Option ℤ} {body : Bytes}

/-- INTERNAL: short values are all read. -/
theorem extract_of_short (hshort : ShortValues env args user passwd seed)
    (huser : args.user = some user) (hne : user ≠ []) (hlatin : ∀ c ∈ passwd, c < 256)
    (built : build_logon_request u env args (some passwd) seed = .ok body) :
    extract_credentials body =
      .ok (some (decode_utf16le (encodeAsciiReplace user)), some passwd) := by
  obtain ⟨-, lang, rest, hone, rfl⟩ := logon_body_records huser built
  let records := logonRecords env args (encodeAsciiReplace user) lang
    (scramble_password passwd seed env.nonce)
  have hrecords := forall_logonRecords (P := fun v => v.length < 0xFFFF) hone
    (fun v hv => by omega) hshort
  have hfits : ∀ r ∈ records, Records.Fits Tag.TERMINATOR r := by
    intro r hr
    obtain ⟨htag, hlast, hlength⟩ := hrecords r hr
    exact ⟨htag, hlast, by omega⟩
  have hstream : records.flatMap written ++ (Records.encode Tag.TERMINATOR [] ++ rest) =
      Records.stream Tag.TERMINATOR records ++ rest := by
    unfold Records.stream
    rw [List.append_assoc, List.flatMap_congr fun r hr => written_short (hrecords r hr).2.2]
  have hparse : parse_tlv_stream (records.flatMap written ++
      (Records.encode Tag.TERMINATOR [] ++ rest)) = .ok records := by
    unfold parse_tlv_stream
    rw [hstream, Records.walk_stream (by decide) hfits rest]
  exact extract_of_records hne hlatin hparse (logonRecords_user ..) (logonRecords_password ..)

/-- INTERNAL: nothing is read behind a value that announces too much. -/
theorem not_extract_of_long (hlong : ¬ ShortValues env args user passwd seed)
    (hannounced : LongAnnounced env args user passwd seed body) (huser : args.user = some user)
    (built : build_logon_request u env args (some passwd) seed = .ok body) :
    ∃ e, extract_credentials body = .error e := by
  obtain ⟨hwidth, lang, rest, hone, rfl⟩ := logon_body_records huser built
  have hwide : ∃ r ∈ logonRecords env args (encodeAsciiReplace user) lang
      (scramble_password passwd seed env.nonce), r.2.length = 0xFFFF := by
    by_contra hnone
    refine hlong fun v hv => ?_
    obtain ⟨tag, hmem⟩ := mem_logonRecords lang hv
    have hv := hwidth v hv
    have hne : v.length ≠ 0xFFFF := fun hfull => hnone ⟨(tag, v), hmem, hfull⟩
    omega
  obtain ⟨tag, declared, left, hending⟩ := walk_written_overrun
    (Records.encode Tag.TERMINATOR [] ++ rest)
    (forall_logonRecords (P := fun v => v.length ≤ 0xFFFF) hone (fun v hv => by omega) hwidth)
    hwide (fun r hr => ((forall_logonRecords
      (P := fun v => v.length = 0xFFFF → _ < ofBE (v.take 4)) hone (fun v hv hfull => by omega)
      hannounced) r hr).2.2) le_rfl
  have hparse : ∃ e, parse_tlv_stream ((logonRecords env args (encodeAsciiReplace user) lang
      (scramble_password passwd seed env.nonce)).flatMap written ++
        (Records.encode Tag.TERMINATOR [] ++ rest)) = .error e := by
    unfold parse_tlv_stream
    dsimp only
    rw [hending]
    exact ⟨_, rfl⟩
  obtain ⟨e, hparse⟩ := hparse
  unfold extract_credentials
  rw [hparse]
  exact ⟨e, rfl⟩

end Reading

/-- SOURCE: connection.py:2299-2360 and server.py:1544-1564.  The server reads the credentials
of a logon where the user has an odd number of characters and no value is as wide as its length
field allows.  Nowhere else does it read them, unless a value of 65535 bytes begins with a length
that the body can hold. -/
theorem credentials_read_iff (u : Unicode) (env : LogonEnv) (args : LogonParams)
    (user passwd : PyStr) (seed : Option ℤ) {body : Bytes} (huser : args.user = some user)
    (hne : user ≠ []) (hascii : ∀ c ∈ user, c < 128) (htrimmed : Trimmed user)
    (hlatin : ∀ c ∈ passwd, c < 256)
    (built : build_logon_request u env args (some passwd) seed = .ok body) :
    (user.length % 2 = 1 ∧ ShortValues env args user passwd seed →
      extract_credentials body = .ok (some user, some passwd)) ∧
    (LongAnnounced env args user passwd seed body →
      (extract_credentials body = .ok (some user, some passwd) ↔
        user.length % 2 = 1 ∧ ShortValues env args user passwd seed)) := by
  have hback := decode_utf16le_ascii_iff hascii htrimmed hne
  have hreads : user.length % 2 = 1 ∧ ShortValues env args user passwd seed →
      extract_credentials body = .ok (some user, some passwd) := by
    rintro ⟨hodd, hshort⟩
    rw [extract_of_short hshort huser hne hlatin built, hback.mpr hodd]
  refine ⟨hreads, fun hannounced => ⟨fun h => ?_, hreads⟩⟩
  have hshort : ShortValues env args user passwd seed := by
    by_contra hlong
    obtain ⟨e, herror⟩ := not_extract_of_long hlong hannounced huser built
    rw [herror] at h
    cases h
  rw [extract_of_short hshort huser hne hlatin built] at h
  exact ⟨hback.mp (Option.some.inj (Prod.ext_iff.mp (Except.ok.inj h)).1), hshort⟩

/-- INTERNAL: a record of 65535 bytes that announces none, and a terminator in them. -/
theorem walk_emptyLong {tag : ℕ} {pad : Bytes} (htag : tag < 256 ^ 2) (hne : tag ≠ Tag.TERMINATOR)
    (hpad : pad.length = 65529) (rest : Bytes) :
    Records.walk Tag.TERMINATOR (written (tag, [0, 0, 0, 0, 0xFF, 0xFF] ++ pad) ++ rest) =
      ⟨[(tag, [])], .terminator⟩ := by
  have hwidth : ([0, 0, 0, 0, 0xFF, 0xFF] ++ pad).length = 0xFFFF := by
    simp only [List.length_append, List.length_cons, List.length_nil, hpad]
  have hbody : written (tag, [0, 0, 0, 0, 0xFF, 0xFF] ++ pad) ++ rest =
      toBE 2 tag ++ toBE 2 0xFFFF ++
        ([0, 0, 0, 0] ++ ([0xFF, 0xFF] ++ (pad ++ toBE 2 tag ++ rest))) := by
    unfold written
    rw [hwidth]
    simp only [List.append_assoc, List.cons_append, List.nil_append]
  have hkept : Records.skipClose tag ([0xFF, 0xFF] ++ (pad ++ toBE 2 tag ++ rest)) =
      [0xFF, 0xFF] ++ (pad ++ toBE 2 tag ++ rest) := by
    have hmark : ofBE (([0xFF, 0xFF] ++ (pad ++ toBE 2 tag ++ rest)).take 2) = Tag.TERMINATOR := rfl
    unfold Records.skipClose
    rw [hmark, if_neg fun h => hne h.2.symm]
  have hscan : Records.scan Tag.TERMINATOR
      (written (tag, [0, 0, 0, 0, 0xFF, 0xFF] ++ pad) ++ rest) =
        .record tag [] ([0xFF, 0xFF] ++ (pad ++ toBE 2 tag ++ rest)) := by
    rw [hbody, Records.scan_header htag (by norm_num), if_neg hne, if_pos rfl,
      if_neg (by simp only [List.length_append, List.length_cons]; omega)]
    have hnone : ofBE (([0, 0, 0, 0] ++ ([0xFF, 0xFF] ++ (pad ++ toBE 2 tag ++ rest))).take 4) =
        0 := rfl
    have hbehind : ([0, 0, 0, 0] ++ ([0xFF, 0xFF] ++ (pad ++ toBE 2 tag ++ rest))).drop 4 =
        [0xFF, 0xFF] ++ (pad ++ toBE 2 tag ++ rest) := rfl
    rw [hnone, hbehind]
    unfold Records.takeValue
    rw [if_neg (Nat.not_lt_zero _), List.take_zero, List.drop_zero, hkept]
  have hend : Records.scan Tag.TERMINATOR ([0xFF, 0xFF] ++ (pad ++ toBE 2 tag ++ rest)) =
      .terminator := by
    apply Records.scan_terminator (by decide)
    · simp only [List.length_append, List.length_cons, List.length_nil]
      omega
    · rfl
  rw [Records.walk_of_record hscan, Records.walk_of_not_record (by rw [hend]; exact nofun), hend]
  rfl

/-- Where a program name of 65535 bytes announces none of them, the credentials in front of it are
read: what begins with a length that the body can hold may come back or not. -/
theorem read_before_emptyLong {u : Unicode} {env : LogonEnv} {args : LogonParams}
    {user passwd : PyStr} {seed : Option ℤ} {body pad : Bytes} (huser : args.user = some user)
    (hne : user ≠ []) (hascii : ∀ c ∈ user, c < 128) (htrimmed : Trimmed user)
    (hodd : user.length % 2 = 1) (hlatin : ∀ c ∈ passwd, c < 256)
    (hname : args.program_name = [0, 0, 0, 0, 0xFF, 0xFF] ++ pad) (hpad : pad.length = 65529)
    (hshort : ShortValues env { args with program_name := [] } user passwd seed)
    (built : build_logon_request u env args (some passwd) seed = .ok body) :
    extract_credentials body = .ok (some user, some passwd) := by
  obtain ⟨-, lang, rest, hone, rfl⟩ := logon_body_records huser built
  let secret := scramble_password passwd seed env.nonce
  let front := (logonRecords env args (encodeAsciiReplace user) lang secret).take 15
  let back := (logonRecords env args (encodeAsciiReplace user) lang secret).drop 16
  have hshort : ∀ r ∈ front, r.1 < 256 ^ 2 ∧ r.1 ≠ Tag.TERMINATOR ∧ r.2.length < 0xFFFF :=
      fun r hr =>
    forall_logonRecords (P := fun v => v.length < 0xFFFF) hone (fun v hv => by omega) hshort r
      (List.mem_of_mem_take (i := 15) hr)
  have hfits : ∀ r ∈ front, Records.Fits Tag.TERMINATOR r := fun r hr =>
    ⟨(hshort r hr).1, (hshort r hr).2.1, by have := (hshort r hr).2.2; omega⟩
  have hsplit : (logonRecords env args (encodeAsciiReplace user) lang secret).flatMap written ++
      (Records.encode Tag.TERMINATOR [] ++ rest) =
      front.flatMap (fun r => Records.encode r.1 r.2) ++
        (written (0x0130, [0, 0, 0, 0, 0xFF, 0xFF] ++ pad) ++
          (back.flatMap written ++ (Records.encode Tag.TERMINATOR [] ++ rest))) := by
    have hlist : logonRecords env args (encodeAsciiReplace user) lang secret =
        front ++ (0x0130, args.program_name) :: back := rfl
    rw [hlist, List.flatMap_append, List.flatMap_cons, hname,
      List.flatMap_congr fun r hr => written_short (hshort r hr).2.2]
    simp only [List.append_assoc]
  have hwalk := Records.walk_written hfits (written (0x0130, [0, 0, 0, 0, 0xFF, 0xFF] ++ pad) ++
    (back.flatMap written ++ (Records.encode Tag.TERMINATOR [] ++ rest)))
  rw [walk_emptyLong (by decide) (by decide) hpad] at hwalk
  have hparse : parse_tlv_stream ((logonRecords env args (encodeAsciiReplace user) lang
      secret).flatMap written ++ (Records.encode Tag.TERMINATOR [] ++ rest)) =
        .ok (front ++ [(0x0130, [])]) := by
    unfold parse_tlv_stream
    rw [hsplit, hwalk]
  rw [extract_of_records hne hlatin hparse rfl rfl,
    (decode_utf16le_ascii_iff hascii htrimmed hne).mpr hodd]

/-! ## Two users -/

/-- A machine whose random bytes are zeros. -/
def plainEnv : LogonEnv := ⟨none, List.replicate 16 0, List.replicate 4 0⟩

/-- A logon of a user, in English. -/
def plainLogon (user : PyStr) : LogonParams :=
  ⟨lit "001", some user, [0x70, 0x79, 0x74, 0x68, 0x6F, 0x6E, 0x33], lit "E"⟩

/-- The body of its logon, with a password and a seed. -/
def plainBody (user : PyStr) : Bytes :=
  (build_logon_request asciiTables plainEnv (plainLogon user) (some (lit "Secret1"))
    (some 0x12345678)).toOption.getD []

theorem credentials_read_admin :
    extract_credentials (plainBody (lit "ADMIN")) =
      .ok (some (lit "ADMIN"), some (lit "Secret1")) :=
  (credentials_read_iff asciiTables plainEnv (plainLogon (lit "ADMIN")) (lit "ADMIN")
    (lit "Secret1") (some 0x12345678) rfl (by decide) (by decide) (by decide) (by decide)
    (by decide +kernel)).1 ⟨by decide, by unfold ShortValues; decide +kernel⟩

/-- Of a user of four letters the server reads two other characters. -/
theorem ddic_read_wrong :
    (build_logon_request asciiTables plainEnv (plainLogon (lit "DDIC")) (some (lit "Secret1"))
      (some 0x12345678) = .ok (plainBody (lit "DDIC"))) ∧
    extract_credentials (plainBody (lit "DDIC")) =
      .ok (some [0x4444, 0x4349], some (lit "Secret1")) ∧
    extract_credentials (plainBody (lit "DDIC")) ≠
      .ok (some (lit "DDIC"), some (lit "Secret1")) := by
  refine ⟨by decide +kernel, by decide +kernel, by decide +kernel⟩

end SapRfc.Analysis.Credentials
