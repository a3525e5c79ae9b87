import SapRfc.Program.Router

/-!
# Routes are read back

A hop stands in a route string with its host and, only where it has them, its service and its
password.  The string is parsed to the hops.  The route request names them by counts, lengths and
strings that end in NUL; it is read here by that layout, and what is read are the hops and the
destination.
-/

set_option autoImplicit false

namespace SapRfc.Analysis.Routes

open SapRfc.Library SapRfc.Program

/-! ## Hops and destinations -/

/-- Every character is ASCII. -/
def Ascii (s : PyStr) : Prop := ∀ c ∈ s, c < 128

/-- Neither a NUL nor a slash. -/
def Plain (s : PyStr) : Prop := 0 ∉ s ∧ 47 ∉ s

/-- A hop as it stands in a route string. -/
structure Hop where
  host : PyStr
  service : Option PyStr
  password : Option PyStr
  host_ne : host ≠ []
  host_ascii : Ascii host
  host_plain : Plain host
  service_plain : ∀ s ∈ service, Plain s
  password_plain : ∀ s ∈ password, Plain s

/-- The host and the service that a route ends at. -/
structure Destination where
  host : PyStr
  service : PyStr
  host_ascii : Ascii host
  service_ascii : Ascii service
  host_no_nul : 0 ∉ host
  service_no_nul : 0 ∉ service

namespace Hop

/-- The hop as the code has it: what is missing is empty. -/
def toRoute (hop : Hop) : RouteHop :=
  { host := hop.host, service := hop.service.getD [], password := hop.password.getD [] }

/-- A marker and a value, where there is a value. -/
def segment (marker : PyStr) : Option PyStr → List PyStr
  | none => []
  | some value => [marker, value]

/-- The tokens of the hop in a route string. -/
def tokens (hop : Hop) : List PyStr :=
  [HOST_MARKER, hop.host] ++ segment SERVICE_MARKER hop.service ++
    segment PASSWORD_MARKER hop.password

end Hop

/-- The route string: a slash in front of every token. -/
def route_string (hops : List Hop) : PyStr :=
  (hops.flatMap Hop.tokens).flatMap fun token => 47 :: token

/-! ## The route string is parsed -/

/-- INTERNAL: a token of a segment has no slash. -/
theorem segment_plain {marker token : PyStr} {field : Option PyStr}
    (h : token ∈ Hop.segment marker field) (hvalue : ∀ v ∈ field, 47 ∉ v) (hmarker : 47 ∉ marker) :
    47 ∉ token := by
  cases field with
  | none => cases h
  | some v =>
    rcases List.mem_pair.mp h with rfl | rfl
    · exact hmarker
    · exact hvalue _ rfl

/-- No token of a hop has a slash. -/
theorem tokens_plain {hop : Hop} {token : PyStr} (h : token ∈ hop.tokens) : 47 ∉ token := by
  unfold Hop.tokens at h
  rw [List.mem_append, List.mem_append, List.mem_pair] at h
  rcases h with ((rfl | rfl) | h) | h
  · decide
  · exact hop.host_plain.2
  · exact segment_plain h (fun v hv => (hop.service_plain v hv).2) (by decide)
  · exact segment_plain h (fun v hv => (hop.password_plain v hv).2) (by decide)

section Tokens

variable (u : Unicode)

/-- INTERNAL: a host begins a hop. -/
theorem read_host (host : PyStr) (rest : List PyStr) (hops : List RouteHop) :
    read_route_tokens u (HOST_MARKER :: host :: rest) hops =
      read_route_tokens u rest (hops ++ [{ host := host }]) := by
  rw [read_route_tokens, if_pos rfl]

/-- INTERNAL: a service that is there goes to the last hop. -/
theorem read_service (service : Option PyStr) (rest : List PyStr) (hops : List RouteHop)
    (hop : RouteHop) (hempty : hop.service = []) :
    read_route_tokens u (Hop.segment SERVICE_MARKER service ++ rest) (hops ++ [hop]) =
      read_route_tokens u rest (hops ++ [{ hop with service := service.getD [] }]) := by
  cases service with
  | none =>
    have hsame : { hop with service := [] } = hop := by rw [← hempty]
    rw [Hop.segment, List.nil_append, Option.getD_none, hsame]
  | some value =>
    rw [Hop.segment, List.cons_append, List.cons_append, List.nil_append, read_route_tokens,
      if_neg (by decide), if_pos rfl, if_neg (by simp), List.modifyLast_concat, Option.getD_some]

/-- INTERNAL: a password that is there goes to the last hop. -/
theorem read_password (password : Option PyStr) (rest : List PyStr) (hops : List RouteHop)
    (hop : RouteHop) (hempty : hop.password = []) :
    read_route_tokens u (Hop.segment PASSWORD_MARKER password ++ rest) (hops ++ [hop]) =
      read_route_tokens u rest (hops ++ [{ hop with password := password.getD [] }]) := by
  cases password with
  | none =>
    have hsame : { hop with password := [] } = hop := by rw [← hempty]
    rw [Hop.segment, List.nil_append, Option.getD_none, hsame]
  | some value =>
    rw [Hop.segment, List.cons_append, List.cons_append, List.nil_append, read_route_tokens,
      if_neg (by decide), if_neg (by decide), if_pos rfl, if_neg (by simp),
      List.modifyLast_concat, Option.getD_some]

/-- The tokens of the hops are read behind any hops. -/
theorem read_tokens_of_hops (hops : List Hop) (before : List RouteHop) :
    read_route_tokens u (hops.flatMap Hop.tokens) before =
      .ok (before ++ hops.map Hop.toRoute) := by
  induction hops generalizing before with
  | nil => rw [List.flatMap_nil, read_route_tokens, List.map_nil, List.append_nil]
  | cons hop hops ih =>
    rw [List.flatMap_cons, Hop.tokens, List.append_assoc, List.append_assoc, List.cons_append,
      List.cons_append, List.nil_append, read_host, read_service u _ _ _ _ rfl,
      read_password u _ _ _ _ rfl, ih, List.map_cons, List.append_assoc]
    rfl

/-- The route string of the hops is parsed to the hops. -/
theorem parse_route_string_of_hops {hops : List Hop} (hne : hops ≠ []) :
    parse_route_string u (route_string hops) = .ok (hops.map Hop.toRoute) := by
  obtain ⟨first, rest, rfl⟩ := List.exists_cons_of_ne_nil hne
  have hhead : (route_string (first :: rest)).head? = some 47 := rfl
  have htokens : splitOn 47 (route_string (first :: rest)) =
      [] :: (first :: rest).flatMap Hop.tokens := by
    apply splitOn_flatMap
    intro token htoken
    obtain ⟨hop, -, hmem⟩ := List.mem_flatMap.mp htoken
    exact tokens_plain hmem
  have hsome : (first :: rest).flatMap Hop.tokens ≠ [] := nofun
  unfold parse_route_string
  rw [if_neg fun h => h hhead, htokens]
  dsimp only
  rw [List.head?_cons, if_pos rfl, List.tail_cons, if_neg hsome, read_tokens_of_hops,
    Eff.except_ok_bind, if_neg (by simp), List.nil_append]

end Tokens

/-! ## The layout of the route request -/

/-- A string and its NUL. -/
def c_string (s : PyStr) : Bytes := s.map UInt8.ofNat ++ [0]

/-- The strings of an entry. -/
def entry_bytes (hop : RouteHop) : Bytes :=
  c_string hop.host ++ c_string hop.service ++ c_string hop.password

/-- The bytes of the entries, without their lengths. -/
def total_data (hops : List RouteHop) (dest : RouteHop) : ℕ :=
  ((hops.map entry_bytes).map List.length).sum + (entry_bytes dest).length

/-- An entry with its length in front of it. -/
def sized (entry : Bytes) : Bytes := toBE 4 entry.length ++ entry

/-- The route request of the hops. -/
def route_bytes (hops : List RouteHop) (dest : RouteHop) : Bytes :=
  NI_ROUTE_START ++ (toBE 4 hops.length ++ (toBE 4 (total_data hops dest) ++
    (((hops.map entry_bytes).map sized).flatten ++ entry_bytes dest)))

/-- All three strings of an entry are ASCII. -/
def AsciiEntry (hop : RouteHop) : Prop := Ascii hop.host ∧ Ascii hop.service ∧ Ascii hop.password

/-! ## What is built -/

theorem null_term_eq_ok {s : PyStr} {b : Bytes} :
    null_term s = .ok b ↔ Ascii s ∧ b = c_string s := by
  unfold null_term
  rw [Eff.except_bind_eq_ok]
  constructor
  · rintro ⟨b', hb', h⟩
    obtain ⟨hs, rfl⟩ := encodeAscii_eq_ok.mp hb'
    exact ⟨hs, (Except.ok.inj h).symm⟩
  · rintro ⟨hs, rfl⟩
    exact ⟨_, encodeAscii_eq_ok.mpr ⟨hs, rfl⟩, rfl⟩

theorem route_entry_eq_ok (hop : RouteHop) {b : Bytes} :
    route_entry hop.host hop.service hop.password = .ok b ↔
      AsciiEntry hop ∧ b = entry_bytes hop := by
  unfold route_entry AsciiEntry
  constructor
  · intro h
    obtain ⟨_, hhost, h⟩ := Eff.except_bind_eq_ok.mp h
    obtain ⟨_, hservice, h⟩ := Eff.except_bind_eq_ok.mp h
    obtain ⟨_, hpassword, h⟩ := Eff.except_bind_eq_ok.mp h
    obtain ⟨h1, rfl⟩ := null_term_eq_ok.mp hhost
    obtain ⟨h2, rfl⟩ := null_term_eq_ok.mp hservice
    obtain ⟨h3, rfl⟩ := null_term_eq_ok.mp hpassword
    exact ⟨⟨h1, h2, h3⟩, (Except.ok.inj h).symm⟩
  · rintro ⟨⟨h1, h2, h3⟩, rfl⟩
    rw [null_term_eq_ok.mpr ⟨h1, rfl⟩, null_term_eq_ok.mpr ⟨h2, rfl⟩,
      null_term_eq_ok.mpr ⟨h3, rfl⟩]
    rfl

/-- INTERNAL: an entry with its length in front of it. -/
theorem sized_eq_ok {entry b : Bytes} :
    ((do let length ← pack_u32 entry.length; .ok (length ++ entry)) : Except PyError Bytes) =
      .ok b ↔
      entry.length < 256 ^ 4 ∧ b = sized entry := by
  rw [Eff.except_bind_eq_ok]
  constructor
  · rintro ⟨_, hlength, h⟩
    obtain ⟨hlt, rfl⟩ := pack_u32_natCast_eq_ok.mp hlength
    exact ⟨hlt, (Except.ok.inj h).symm⟩
  · rintro ⟨hlt, rfl⟩
    exact ⟨_, pack_u32_natCast_eq_ok.mpr ⟨hlt, rfl⟩, rfl⟩

/-- INTERNAL: there are no more entries than bytes of them, and none is longer than all of them. -/
theorem le_total_data (hops : List RouteHop) (dest : RouteHop) :
    hops.length ≤ total_data hops dest ∧
      ∀ hop ∈ hops, (entry_bytes hop).length ≤ total_data hops dest := by
  unfold total_data
  induction hops with
  | nil => exact ⟨Nat.zero_le _, nofun⟩
  | cons hop hops ih =>
    have hpos : 0 < (entry_bytes hop).length := by simp [entry_bytes, c_string]
    simp only [List.map_cons, List.sum_cons, List.length_cons, List.forall_mem_cons]
    refine ⟨by omega, by omega, fun other hother => ?_⟩
    have hle := ih.2 other hother
    omega

/-- A request is built where there is a hop, all strings are ASCII and the sizes fit. -/
theorem build_ni_route_eq_ok {hops : List RouteHop} {dest_host dest_service : PyStr} {buf : Bytes} :
    build_ni_route hops dest_host dest_service = .ok buf ↔
      hops ≠ [] ∧ (∀ hop ∈ hops, AsciiEntry hop) ∧
      AsciiEntry { host := dest_host, service := dest_service } ∧
      total_data hops { host := dest_host, service := dest_service } < 256 ^ 4 ∧
      buf = route_bytes hops { host := dest_host, service := dest_service } := by
  unfold build_ni_route
  by_cases hne : hops = []
  · rw [if_pos hne]
    exact ⟨nofun, fun h => absurd hne h.1⟩
  · rw [if_neg hne]
    constructor
    · intro h
      obtain ⟨_, hentries, h⟩ := Eff.except_bind_eq_ok.mp h
      obtain ⟨_, hdest, h⟩ := Eff.except_bind_eq_ok.mp h
      obtain ⟨_, hcount, h⟩ := Eff.except_bind_eq_ok.mp h
      obtain ⟨_, htotal, h⟩ := Eff.except_bind_eq_ok.mp h
      obtain ⟨_, hsized, h⟩ := Eff.except_bind_eq_ok.mp h
      obtain ⟨hall, rfl⟩ := (Eff.except_mapM_eq_ok_map fun hop _ => route_entry_eq_ok hop).mp
          hentries
      obtain ⟨hascii, rfl⟩ := (route_entry_eq_ok
        { host := dest_host, service := dest_service }).mp hdest
      obtain ⟨-, rfl⟩ := pack_u32_natCast_eq_ok.mp hcount
      obtain ⟨hfits, rfl⟩ := pack_u32_natCast_eq_ok.mp htotal
      obtain ⟨-, rfl⟩ := (Eff.except_mapM_eq_ok_map fun _ _ => sized_eq_ok).mp hsized
      refine ⟨hne, hall, hascii, hfits, ?_⟩
      rw [← Except.ok.inj h]
      simp only [List.append_assoc]
      rfl
    · rintro ⟨-, hall, hascii, hfits, rfl⟩
      obtain ⟨hcount, hentry⟩ :=
        le_total_data hops { host := dest_host, service := dest_service }
      refine Eff.except_bind_eq_ok.mpr ⟨_,
        (Eff.except_mapM_eq_ok_map fun hop _ => route_entry_eq_ok hop).mpr ⟨hall, rfl⟩, ?_⟩
      refine Eff.except_bind_eq_ok.mpr ⟨_, (route_entry_eq_ok
        { host := dest_host, service := dest_service }).mpr ⟨hascii, rfl⟩, ?_⟩
      refine Eff.except_bind_eq_ok.mpr ⟨_,
        pack_u32_natCast_eq_ok.mpr ⟨Nat.lt_of_le_of_lt hcount hfits, rfl⟩, ?_⟩
      refine Eff.except_bind_eq_ok.mpr ⟨_, pack_u32_natCast_eq_ok.mpr ⟨hfits, rfl⟩, ?_⟩
      refine Eff.except_bind_eq_ok.mpr ⟨_,
        (Eff.except_mapM_eq_ok_map fun _ _ => sized_eq_ok).mpr ⟨?_, rfl⟩, ?_⟩
      · intro entry hmem
        obtain ⟨hop, hhop, rfl⟩ := List.mem_map.mp hmem
        exact Nat.lt_of_le_of_lt (hentry hop hhop) hfits
      · simp only [List.append_assoc]
        rfl

/-! ## The request is read back -/

/-- A string up to its NUL, and what is behind that. -/
def read_c_string : Bytes → Option (PyStr × Bytes)
  | [] => none
  | b :: rest =>
    if b = 0 then some ([], rest) else (read_c_string rest).map fun r => (b.toNat :: r.1, r.2)

/-- An entry: three strings and nothing more. -/
def read_entry (entry : Bytes) : Option RouteHop :=
  (read_c_string entry).bind fun host =>
    (read_c_string host.2).bind fun service =>
      (read_c_string service.2).bind fun password =>
        if password.2 = [] then
          some { host := host.1, service := service.1, password := password.1 }
        else none

/-- So many entries with their lengths in front: the hops, the sum of the lengths, the rest. -/
def read_entries : ℕ → Bytes → Option (List RouteHop × ℕ × Bytes)
  | 0, buf => some ([], 0, buf)
  | n + 1, buf =>
    let length := ofBE (buf.take 4)
    if 4 + length ≤ buf.length then
      (read_entry (slice buf 4 (4 + length))).bind fun hop =>
        (read_entries n (buf.drop (4 + length))).map fun r => (hop :: r.1, length + r.2.1, r.2.2)
    else none

/-- A route request by its layout: the hops and the destination.  The number of hops and every
length have to agree with what is there. -/
def read_ni_route (buf : Bytes) : Option (List RouteHop × RouteHop) :=
  if 20 ≤ buf.length ∧ buf.take 12 = NI_ROUTE_START then
    (read_entries (ofBE (slice buf 12 16)) (buf.drop 20)).bind fun r =>
      if r.2.1 + r.2.2.length = ofBE (slice buf 16 20) then
        (read_entry r.2.2).map fun dest => (r.1, dest)
      else none
  else none

/-- ASCII without NUL: what a string of an entry may be. -/
def EntryString (s : PyStr) : Prop := Ascii s ∧ 0 ∉ s

theorem read_c_string_append {s : PyStr} (h : EntryString s) (rest : Bytes) :
    read_c_string (c_string s ++ rest) = some (s, rest) := by
  unfold c_string
  induction s with
  | nil => rfl
  | cons c s ih =>
    obtain ⟨hascii, hnul⟩ := h
    obtain ⟨hc, hs⟩ := List.forall_mem_cons.mp hascii
    obtain ⟨hc0, hs0⟩ := not_or.mp (mt List.mem_cons.mpr hnul)
    have hnat : (UInt8.ofNat c).toNat = c := by
      rw [UInt8.toNat_ofNat', Nat.mod_eq_of_lt (by omega)]
    have hne : UInt8.ofNat c ≠ 0 := fun h0 => hc0 (by rw [← hnat, h0]; rfl)
    rw [List.map_cons, List.cons_append, List.cons_append, read_c_string, if_neg hne,
      ih ⟨hs, hs0⟩, Option.map_some, hnat]

theorem read_entry_bytes {hop : RouteHop} (hmode : hop.talk_mode = 0)
    (hhost : EntryString hop.host) (hservice : EntryString hop.service)
    (hpassword : EntryString hop.password) : read_entry (entry_bytes hop) = some hop := by
  have hlast := read_c_string_append hpassword []
  rw [List.append_nil] at hlast
  unfold read_entry entry_bytes
  rw [List.append_assoc, read_c_string_append hhost, Option.bind_some,
    read_c_string_append hservice, Option.bind_some, hlast, Option.bind_some, if_pos rfl, ← hmode]

/-- The entries are read, whatever stands behind them. -/
theorem read_entries_append {hops : List RouteHop}
    (hread : ∀ hop ∈ hops, read_entry (entry_bytes hop) = some hop)
    (hfits : ∀ hop ∈ hops, (entry_bytes hop).length < 256 ^ 4) (rest : Bytes) :
    read_entries hops.length (((hops.map entry_bytes).map sized).flatten ++ rest) =
      some (hops, ((hops.map entry_bytes).map List.length).sum, rest) := by
  induction hops with
  | nil => rfl
  | cons hop hops ih =>
    obtain ⟨hhop, hhops⟩ := List.forall_mem_cons.mp hread
    obtain ⟨hlt, hlts⟩ := List.forall_mem_cons.mp hfits
    have hwidth : (toBE 4 (entry_bytes hop).length).length = 4 := length_toBE ..
    simp only [List.map_cons, List.flatten_cons, List.length_cons, List.sum_cons]
    unfold sized at ih ⊢
    rw [List.append_assoc, List.append_assoc, read_entries, List.take_left' hwidth,
      ofBE_toBE_of_lt hlt, if_pos (by simp only [List.length_append, length_toBE]; omega)]
    have hslice := slice_append_right (toBE 4 (entry_bytes hop).length) (entry_bytes hop ++
      ((List.map (fun entry => toBE 4 (List.length entry) ++ entry)
        (List.map entry_bytes hops)).flatten ++ rest)) 0 (entry_bytes hop).length
    rw [hwidth, Nat.add_zero, slice_zero, List.take_left' rfl] at hslice
    rw [hslice, hhop, Option.bind_some, ← List.append_assoc,
      List.drop_left' (by rw [List.length_append, hwidth]), ih hhops hlts, Option.map_some]

/-- A request is read back by its layout. -/
theorem read_route_bytes {hops : List RouteHop} {dest : RouteHop}
    (hread : ∀ hop ∈ hops, read_entry (entry_bytes hop) = some hop)
    (hdest : read_entry (entry_bytes dest) = some dest) (hfits : total_data hops dest < 256 ^ 4) :
    read_ni_route (route_bytes hops dest) = some (hops, dest) := by
  obtain ⟨hcount, hentry⟩ := le_total_data hops dest
  have hstart : NI_ROUTE_START.length = 12 := rfl
  have hcounted := slice_append_right NI_ROUTE_START (toBE 4 hops.length ++
    (toBE 4 (total_data hops dest) ++ (((hops.map entry_bytes).map sized).flatten ++
      entry_bytes dest))) 0 4
  have htotal := slice_append_right (NI_ROUTE_START ++ toBE 4 hops.length)
    (toBE 4 (total_data hops dest) ++ (((hops.map entry_bytes).map sized).flatten ++
      entry_bytes dest)) 0 4
  rw [hstart, slice_zero, List.take_left' (length_toBE ..)] at hcounted
  rw [List.length_append, hstart, length_toBE, slice_zero, List.take_left' (length_toBE ..),
    List.append_assoc] at htotal
  have hrest : (route_bytes hops dest).drop 20 =
      ((hops.map entry_bytes).map sized).flatten ++ entry_bytes dest := by
    unfold route_bytes
    rw [← List.append_assoc, ← List.append_assoc, List.drop_left' (by
      rw [List.length_append, List.length_append, hstart, length_toBE, length_toBE])]
  have hlong : 20 ≤ (route_bytes hops dest).length := by
    unfold route_bytes
    simp only [List.length_append, length_toBE, hstart]
    omega
  have hhead : (route_bytes hops dest).take 12 = NI_ROUTE_START := List.take_left' hstart
  have hentries := read_entries_append hread
    (fun hop hhop => Nat.lt_of_le_of_lt (hentry hop hhop) hfits) (entry_bytes dest)
  unfold read_ni_route
  rw [if_pos ⟨hlong, hhead⟩, hrest]
  show ((read_entries (ofBE (slice (route_bytes hops dest) (12 + 0) (12 + 4))) _).bind _) = _
  unfold route_bytes
  rw [hcounted, ofBE_toBE_of_lt (Nat.lt_of_le_of_lt hcount hfits), hentries, Option.bind_some]
  show (if _ = ofBE (slice _ (12 + 4 + 0) (12 + 4 + 4)) then _ else _) = _
  have hsum : ((hops.map entry_bytes).map List.length).sum + (entry_bytes dest).length =
      total_data hops dest := rfl
  rw [htotal, ofBE_toBE_of_lt hfits, if_pos hsum, hdest, Option.map_some]

/-! ## Both ways -/

namespace Hop

/-- INTERNAL: a missing string is as good as any. -/
theorem getD_not_mem {c : ℕ} {field : Option PyStr} (h : ∀ s ∈ field, c ∉ s) :
    c ∉ field.getD [] := by
  cases field with
  | none => exact List.not_mem_nil
  | some s => exact h s rfl

theorem read_entry_of_ascii (hop : Hop) (h : AsciiEntry hop.toRoute) :
    read_entry (entry_bytes hop.toRoute) = some hop.toRoute :=
  read_entry_bytes rfl ⟨h.1, hop.host_plain.1⟩
    ⟨h.2.1, getD_not_mem fun s hs => (hop.service_plain s hs).1⟩
    ⟨h.2.2, getD_not_mem fun s hs => (hop.password_plain s hs).1⟩

end Hop

/-- The destination as an entry: its password is empty. -/
def Destination.entry (dest : Destination) : RouteHop :=
  { host := dest.host, service := dest.service }

/-- The route string of the hops is parsed to them.  Their route request is built wherever the
services and passwords are ASCII and the strings fit the four bytes of their length, and what is
built is read back by its layout as the hops and the destination. -/
theorem route_round_trip (u : Unicode) (dest : Destination) {hops : List Hop} (hne : hops ≠ []) :
    parse_route_string u (route_string hops) = .ok (hops.map Hop.toRoute) ∧
    ((∃ buf, build_ni_route (hops.map Hop.toRoute) dest.host dest.service = .ok buf) ↔
      (∀ hop ∈ hops, Ascii hop.toRoute.service ∧ Ascii hop.toRoute.password) ∧
        total_data (hops.map Hop.toRoute) dest.entry < 256 ^ 4) ∧
    ∀ buf, build_ni_route (hops.map Hop.toRoute) dest.host dest.service = .ok buf →
      read_ni_route buf = some (hops.map Hop.toRoute, dest.entry) := by
  have hnil : Ascii [] := nofun
  refine ⟨parse_route_string_of_hops u hne, ?_, fun buf hbuf => ?_⟩
  · constructor
    · rintro ⟨buf, hbuf⟩
      obtain ⟨-, hall, -, hfits, -⟩ := build_ni_route_eq_ok.mp hbuf
      exact ⟨fun hop hhop => (hall _ (List.mem_map_of_mem hhop)).2, hfits⟩
    · rintro ⟨hall, hfits⟩
      refine ⟨_, build_ni_route_eq_ok.mpr ⟨fun h => hne (List.map_eq_nil_iff.mp h), ?_,
        ⟨dest.host_ascii, dest.service_ascii, hnil⟩, hfits, rfl⟩⟩
      intro entry hentry
      obtain ⟨hop, hhop, rfl⟩ := List.mem_map.mp hentry
      exact ⟨hop.host_ascii, hall hop hhop⟩
  · obtain ⟨-, hall, -, hfits, rfl⟩ := build_ni_route_eq_ok.mp hbuf
    apply read_route_bytes
    · intro entry hentry
      obtain ⟨hop, -, rfl⟩ := List.mem_map.mp hentry
      exact hop.read_entry_of_ascii (hall _ hentry)
    · exact read_entry_bytes rfl ⟨dest.host_ascii, dest.host_no_nul⟩
        ⟨dest.service_ascii, dest.service_no_nul⟩ ⟨hnil, List.not_mem_nil⟩
    · exact hfits

/-- A hop with a service name of seven characters and a password. -/
def namedHop : Hop where
  host := lit "r1"
  service := some (lit "sapgw00")
  password := some (lit "pw")
  host_ne := by decide
  host_ascii := by unfold Ascii; decide
  host_plain := by unfold Plain; decide
  service_plain := fun s hs => by cases hs; unfold Plain; decide
  password_plain := fun s hs => by cases hs; unfold Plain; decide

/-- A hop with neither. -/
def bareHop : Hop where
  host := lit "r2"
  service := none
  password := none
  host_ne := by decide
  host_ascii := by unfold Ascii; decide
  host_plain := by unfold Plain; decide
  service_plain := nofun
  password_plain := nofun

/-- A destination. -/
def gateway : Destination where
  host := lit "a"
  service := lit "3300"
  host_ascii := by unfold Ascii; decide
  service_ascii := by unfold Ascii; decide
  host_no_nul := by decide
  service_no_nul := by decide

/-- A route over both is parsed, and its request is read back. -/
theorem two_hops_round_trip :
    parse_route_string asciiTables (lit "/H/r1/S/sapgw00/P/pw/H/r2") =
        .ok [namedHop.toRoute, bareHop.toRoute] ∧
      ∃ buf, build_ni_route [namedHop.toRoute, bareHop.toRoute] gateway.host gateway.service =
          .ok buf ∧
        read_ni_route buf = some ([namedHop.toRoute, bareHop.toRoute], gateway.entry) := by
  obtain ⟨hparse, hbuilt, hread⟩ :=
    route_round_trip asciiTables gateway
      (show [namedHop, bareHop] ≠ [] from List.cons_ne_nil _ _)
  have hascii : ∀ hop ∈ [namedHop, bareHop],
      Ascii hop.toRoute.service ∧ Ascii hop.toRoute.password := by
    unfold Ascii
    decide
  obtain ⟨buf, hbuf⟩ := hbuilt.mpr ⟨hascii, by decide⟩
  exact ⟨hparse, buf, hbuf, hread buf hbuf⟩

end SapRfc.Analysis.Routes
