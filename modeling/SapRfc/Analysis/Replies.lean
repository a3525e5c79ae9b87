import SapRfc.Analysis.PairGroups
import SapRfc.Analysis.Responses

/-!
# Replies that report success

A complete reply is decoded when it reports success, and raises otherwise; its tables have
nothing to do with that.
-/

set_option autoImplicit false

namespace SapRfc.Analysis.Replies

open SapRfc.Library SapRfc.Program

variable {V : Type} {p : Platform V} {rs : List (ℕ × Bytes)}

/-- The reply is none of the gateway's, has a return code, and reports no error. -/
structure Accepted (u : Unicode) (rs : List (ℕ × Bytes)) : Prop where
  no_gateway : parse_gateway_error u (Records.stream Tag.TERMINATOR rs) = none
  no_error : raise_for_tags rs = .ok ()
  return_code : Tags.get rs Tag.RETURN_CODE ≠ none

/-- INTERNAL: the records of a complete stream. -/
theorem parse_tlv_stream_stream (hfits : ∀ r ∈ rs, Records.Fits Tag.TERMINATOR r) :
    parse_tlv_stream (Records.stream Tag.TERMINATOR rs) = .ok rs := by
  have hwalk := Records.walk_stream (by decide) hfits []
  rw [List.append_nil] at hwalk
  unfold parse_tlv_stream
  rw [hwalk]

/-- INTERNAL: what is raised of a complete stream. -/
theorem raise_for_rfc_error_stream (hfits : ∀ r ∈ rs, Records.Fits Tag.TERMINATOR r)
    {u : Unicode} (h : parse_gateway_error u (Records.stream Tag.TERMINATOR rs) = none) :
    raise_for_rfc_error u (Records.stream Tag.TERMINATOR rs) = raise_for_tags rs := by
  unfold raise_for_rfc_error
  rw [h, parse_tlv_stream_stream hfits]

/-- The reply is none of the gateway's, and has a return code or an error of its own.  The error
of any other complete reply quotes the frame or its length. -/
structure Reported (u : Unicode) (rs : List (ℕ × Bytes)) : Prop where
  no_gateway : parse_gateway_error u (Records.stream Tag.TERMINATOR rs) = none
  verdict : Tags.get rs Tag.RETURN_CODE = none → raise_for_tags rs ≠ .ok ()

theorem Accepted.reported {u : Unicode} (h : Accepted u rs) : Reported u rs :=
  ⟨h.no_gateway, fun hnone => absurd hnone h.return_code⟩

theorem parse_of_reported (hfits : ∀ r ∈ rs, Records.Fits Tag.TERMINATOR r)
    (h : Reported p.u rs) (desc : FunctionDesc) (dm : List (ℕ × PyStr)) :
    parse_invoke_response p (Records.stream Tag.TERMINATOR rs) desc dm = (do
      raise_for_tags rs
      decode_result p (Records.stream Tag.TERMINATOR rs) desc dm) := by
  unfold parse_invoke_response
  rw [parse_tlv_stream_stream hfits]
  dsimp only
  rw [raise_for_rfc_error_stream hfits h.no_gateway]
  cases hraise : raise_for_tags rs with
  | error e => rfl
  | ok _ =>
    obtain ⟨rc, hrc⟩ := Option.ne_none_iff_exists'.mp fun hnone => h.verdict hnone hraise
    rw [Eff.except_ok_bind, Eff.except_ok_bind, hrc]

theorem parse_of_unreported (hfits : ∀ r ∈ rs, Records.Fits Tag.TERMINATOR r)
    (h : ¬ Reported p.u rs) (desc : FunctionDesc) (dm : List (ℕ × PyStr)) :
    ∃ text, parse_invoke_response p (Records.stream Tag.TERMINATOR rs) desc dm =
      .error (err .communication text) := by
  have hne : Records.stream Tag.TERMINATOR rs ≠ [] := by
    intro hnil
    have hlength := Records.length_stream_ge Tag.TERMINATOR rs
    rw [hnil, List.length_nil] at hlength
    omega
  unfold parse_invoke_response
  rw [parse_tlv_stream_stream hfits]
  dsimp only
  cases hgateway : parse_gateway_error p.u (Records.stream Tag.TERMINATOR rs) with
  | some text =>
    unfold raise_for_rfc_error
    rw [hgateway]
    exact ⟨_, rfl⟩
  | none =>
    -- no error and no return code: the length of the frame is all there is to tell
    have hverdict : Tags.get rs Tag.RETURN_CODE = none ∧ raise_for_tags rs = .ok () := by
      by_contra hsome
      exact h ⟨hgateway, fun hnone hok => hsome ⟨hnone, hok⟩⟩
    rw [raise_for_rfc_error_stream hfits hgateway, hverdict.2, Eff.except_ok_bind, hverdict.1]
    dsimp only
    rw [if_neg hne]
    exact ⟨_, rfl⟩

theorem parse_of_accepted (hfits : ∀ r ∈ rs, Records.Fits Tag.TERMINATOR r)
    (h : Accepted p.u rs) (desc : FunctionDesc) (dm : List (ℕ × PyStr)) :
    parse_invoke_response p (Records.stream Tag.TERMINATOR rs) desc dm =
      decode_result p (Records.stream Tag.TERMINATOR rs) desc dm := by
  rw [parse_of_reported hfits h.reported, h.no_error, Eff.except_ok_bind]

/-! ## What is decoded -/

/-- The parameters that come back. -/
def outputs (desc : FunctionDesc) : List FieldDesc :=
  desc.parameters.filter fun f => decide (f.direction ≠ RFC_IMPORT)

/-- The value of a pair, and that of a document. -/
def readPair (p : Platform V) (counts : List (PyStr × ℕ)) (f : FieldDesc) (e : PyStr × Bytes) :
    Except PyError V :=
  p.codec.decode f.rfctype e.2 f (assocGet counts e.1)

def readXml (p : Platform V) (f : FieldDesc) (e : PyStr × Bytes) : Except PyError V :=
  p.codec.decodeBasxml e.2 f.name

/-- First the pairs are assigned, then the documents. -/
theorem decode_result_eq (resp : Bytes) (desc : FunctionDesc) (dm : List (ℕ × PyStr)) :
    decode_result p resp desc dm = (do
      let named ← extract_named_values p.codec resp dm
      let result ← named.pairs.foldlM
        (Dicts.assign p.u (outputs desc) (readPair p named.row_counts)) []
      named.basxml.foldlM (Dicts.assign p.u (outputs desc) (readXml p)) result) := rfl

/-- INTERNAL: a reply that is decoded was accepted. -/
theorem decode_of_parse (hfits : ∀ r ∈ rs, Records.Fits Tag.TERMINATOR r) {desc : FunctionDesc}
    {dm : List (ℕ × PyStr)} {result : Values V}
    (h : parse_invoke_response p (Records.stream Tag.TERMINATOR rs) desc dm = .ok result) :
    decode_result p (Records.stream Tag.TERMINATOR rs) desc dm = .ok result := by
  by_cases hreported : Reported p.u rs
  · rw [parse_of_reported hfits hreported] at h
    obtain ⟨-, -, hdecode⟩ := Eff.except_bind_eq_ok.mp h
    exact hdecode
  · obtain ⟨text, htext⟩ := parse_of_unreported hfits hreported desc dm
    rw [htext] at h
    cases h

/-! ## What decides -/

theorem parse_gateway_error_eq_none {u : Unicode} {payload : Bytes} :
    parse_gateway_error u payload = none ↔ payload.take 5 ≠ gatewayErrorMarker := by
  unfold parse_gateway_error
  split
  next h =>
    refine ⟨fun hnone => ?_, fun hne => absurd h hne⟩
    dsimp only at hnone
    split at hnone <;> cases hnone
  next h => exact ⟨fun _ => h, fun _ => rfl⟩

theorem raise_for_tags_eq_ok {tags : Tags} :
    raise_for_tags tags = .ok () ↔ tags.get Tag.EXCEPTION_NUMBER = none ∧
      ∀ rc, tags.get Tag.RETURN_CODE = some rc → rc.length = 4 ∧ ofBE rc = 0 := by
  unfold raise_for_tags
  cases tags.get Tag.EXCEPTION_NUMBER with
  | some _ => exact ⟨(nomatch ·), fun h => (nomatch h.1)⟩
  | none =>
    cases tags.get Tag.RETURN_CODE with
    | none => exact ⟨fun _ => ⟨rfl, nofun⟩, fun _ => rfl⟩
    | some rc =>
      dsimp only
      split
      next hlength =>
        exact ⟨(nomatch ·), fun h => absurd (h.2 rc rfl).1 hlength⟩
      next hlength =>
        rw [not_not] at hlength
        split
        next hzero =>
          refine ⟨fun _ => ⟨rfl, fun rc' hrc => ?_⟩, fun _ => rfl⟩
          obtain rfl := Option.some.inj hrc
          exact ⟨hlength, hzero⟩
        next hzero =>
          exact ⟨(nomatch ·), fun h => absurd (h.2 rc rfl).2 hzero⟩

/-- INTERNAL: records with other tags do not count. -/
theorem get_append_middle (tag : ℕ) (before middle after : List (ℕ × Bytes))
    (h : ∀ r ∈ middle, r.1 ≠ tag) :
    Tags.get (before ++ middle ++ after) tag = Tags.get (before ++ after) tag := by
  have hmiddle : middle.reverse.find? (fun r => decide (r.1 = tag)) = none := by
    rw [List.find?_eq_none]
    intro r hr
    rw [decide_eq_true_eq]
    exact h r (List.mem_reverse.mp hr)
  unfold Tags.get
  rw [List.reverse_append, List.reverse_append, List.reverse_append, List.find?_append,
    List.find?_append, hmiddle, Option.none_or, ← List.find?_append]

/-- The tags that decide whether a reply is accepted, and with which error it is refused. -/
def verdictTags : List ℕ :=
  [Tag.EXCEPTION_NUMBER, Tag.RETURN_CODE, Tag.EXCEPTION_KEY, Tag.EXCEPTION_KEY_ALT,
    Tag.EXCEPTION_TEXT, Tag.EXCEPTION_MSG_CLASS, Tag.EXCEPTION_MSG_TYPE, Tag.EXCEPTION_MSG_NUMBER,
    Tag.EXCEPTION_MSG_V1, Tag.EXCEPTION_MSG_V2, Tag.EXCEPTION_MSG_V3, Tag.EXCEPTION_MSG_V4]

theorem raise_for_tags_congr {a b : Tags} (h : ∀ tag ∈ verdictTags, a.get tag = b.get tag) :
    raise_for_tags a = raise_for_tags b := by
  have hdetail : abapDetail a = abapDetail b := by
    unfold abapDetail
    rw [h Tag.EXCEPTION_MSG_CLASS (by decide), h Tag.EXCEPTION_MSG_TYPE (by decide),
      h Tag.EXCEPTION_MSG_NUMBER (by decide), h Tag.EXCEPTION_MSG_V1 (by decide),
      h Tag.EXCEPTION_MSG_V2 (by decide), h Tag.EXCEPTION_MSG_V3 (by decide),
      h Tag.EXCEPTION_MSG_V4 (by decide)]
  unfold raise_for_tags
  rw [hdetail, h Tag.EXCEPTION_NUMBER (by decide), h Tag.RETURN_CODE (by decide),
    h Tag.EXCEPTION_KEY (by decide), h Tag.EXCEPTION_KEY_ALT (by decide),
    h Tag.EXCEPTION_TEXT (by decide)]

/-- INTERNAL: the first record decides whether a stream is an error of the gateway. -/
theorem take_stream_cons (r : ℕ × Bytes) (rs : List (ℕ × Bytes)) :
    (Records.stream Tag.TERMINATOR (r :: rs)).take 5 = (Records.encode r.1 r.2).take 5 := by
  have hlength : 5 ≤ (Records.encode r.1 r.2).length := by
    have := Records.length_opened_ge r.1 r.2
    rw [Records.length_encode]
    omega
  rw [Records.stream_cons, List.take_append_of_le_length hlength]

/-- INTERNAL: the records of parameters are no error of the gateway. -/
theorem no_gateway_of_tag {u : Unicode} {r : ℕ × Bytes} {rs : List (ℕ × Bytes)}
    (htag : r.1 < 256 ^ 2) (h : r.1 ≠ 0x2A45) :
    parse_gateway_error u (Records.stream Tag.TERMINATOR (r :: rs)) = none := by
  rw [parse_gateway_error_eq_none, take_stream_cons]
  intro hmarker
  have htwo : ((Records.encode r.1 r.2).take 5).take 2 = toBE 2 r.1 := by
    rw [List.take_take, Nat.min_eq_left (by decide)]
    unfold Records.encode
    split
    · rw [List.append_assoc, List.append_assoc, List.append_assoc,
        List.take_left' (length_toBE 2 _)]
    · rw [List.append_assoc, List.append_assoc, List.take_left' (length_toBE 2 _)]
  rw [hmarker] at htwo
  have hnumber := congrArg ofBE htwo
  rw [ofBE_toBE_of_lt htag] at hnumber
  exact h (hnumber.symm.trans (by decide))

section Middle

variable {before a b after : List (ℕ × Bytes)}

/-- INTERNAL: the tags of the verdict are outside of the records that change. -/
theorem get_congr (ha : ∀ r ∈ a, r.1 ∉ verdictTags) (hb : ∀ r ∈ b, r.1 ∉ verdictTags) (tag : ℕ)
    (htag : tag ∈ verdictTags) :
    Tags.get (before ++ a ++ after) tag = Tags.get (before ++ b ++ after) tag := by
  rw [get_append_middle tag before a after fun r hr heq => ha r hr (heq ▸ htag),
    get_append_middle tag before b after fun r hr heq => hb r hr (heq ▸ htag)]

/-- INTERNAL: and so is what the gateway writes. -/
theorem no_gateway_congr {u : Unicode} (hfirst : ∀ r ∈ b, r.1 < 256 ^ 2 ∧ r.1 ≠ 0x2A45)
    (hbne : b ≠ [])
    (h : parse_gateway_error u (Records.stream Tag.TERMINATOR (before ++ a ++ after)) = none) :
    parse_gateway_error u (Records.stream Tag.TERMINATOR (before ++ b ++ after)) = none := by
  cases before with
  | nil =>
    obtain ⟨r, rest, rfl⟩ := List.exists_cons_of_ne_nil hbne
    obtain ⟨htag, hne⟩ := hfirst r List.mem_cons_self
    exact no_gateway_of_tag htag hne
  | cons r before =>
    rw [parse_gateway_error_eq_none, List.cons_append, List.cons_append, take_stream_cons] at h ⊢
    exact h

/-- A reply whose records of other kinds change is accepted as before. -/
theorem accepted_congr {u : Unicode} (ha : ∀ r ∈ a, r.1 ∉ verdictTags)
    (hb : ∀ r ∈ b, r.1 ∉ verdictTags) (hfirst : ∀ r ∈ b, r.1 < 256 ^ 2 ∧ r.1 ≠ 0x2A45)
    (hbne : b ≠ []) (h : Accepted u (before ++ a ++ after)) :
    Accepted u (before ++ b ++ after) := by
  refine ⟨no_gateway_congr hfirst hbne h.no_gateway, ?_, ?_⟩
  · rw [raise_for_tags_congr (get_congr hb ha)]
    exact h.no_error
  · rw [get_congr hb ha _ (by decide)]
    exact h.return_code

end Middle

/-- What the server builds of a result is accepted. -/
theorem accepted_result {u : Unicode} {records : List (ℕ × Bytes)}
    (h : ∀ r ∈ records, r.1 ∉ verdictTags) :
    Accepted u ((Tag.RESPONSE_START, []) :: (Tag.RETURN_CODE, toBE 4 RC_OK) :: records) := by
  have hget : ∀ tag ∈ verdictTags, Tags.get
      ((Tag.RESPONSE_START, []) :: (Tag.RETURN_CODE, toBE 4 RC_OK) :: records) tag =
        Tags.get [(Tag.RESPONSE_START, []), (Tag.RETURN_CODE, toBE 4 RC_OK)] tag := by
    intro tag htag
    have hmiddle := get_append_middle tag
      [(Tag.RESPONSE_START, []), (Tag.RETURN_CODE, toBE 4 RC_OK)] records []
      fun r hr heq => h r hr (heq ▸ htag)
    rw [List.append_nil, List.append_nil] at hmiddle
    exact hmiddle
  have hnumber := hget Tag.EXCEPTION_NUMBER List.mem_cons_self
  have hcode := hget Tag.RETURN_CODE (List.mem_cons_of_mem _ List.mem_cons_self)
  refine ⟨no_gateway_of_tag (by decide) (by decide), raise_for_tags_eq_ok.mpr ⟨hnumber, ?_⟩, ?_⟩
  · intro rc hrc
    obtain rfl : toBE 4 RC_OK = rc := Option.some.inj (hcode.symm.trans hrc)
    exact ⟨length_toBE 4 _, by decide⟩
  · rw [hcode]
    exact Option.some_ne_none (toBE 4 RC_OK)

/-! ## Two replies with one report -/

/-- The same values or the same error, and errors of one kind where they quote the frame. -/
def Alike {α : Type} (u : Unicode) (rs : List (ℕ × Bytes)) (x y : Except PyError α) : Prop :=
  x.mapError PyError.kind = y.mapError PyError.kind ∧ (Reported u rs → x = y)

/-- INTERNAL: values are the same. -/
theorem Alike.ok {α : Type} {u : Unicode} {x y : Except PyError α} (h : Alike u rs x y) {v : α}
    (hx : x = .ok v) : y = .ok v := by
  have hkind := h.1
  rw [hx] at hkind
  cases y with
  | error e => cases hkind
  | ok w => exact congrArg Except.ok (Except.ok.inj hkind).symm

/-- Two replies that report the same, whatever else they hold. -/
structure SameReport (u : Unicode) (a b : List (ℕ × Bytes)) : Prop where
  gateway : parse_gateway_error u (Records.stream Tag.TERMINATOR a) = none ↔
    parse_gateway_error u (Records.stream Tag.TERMINATOR b) = none
  tags : ∀ tag ∈ verdictTags, Tags.get a tag = Tags.get b tag

namespace SameReport

variable {a b : List (ℕ × Bytes)}

theorem reported_iff {u : Unicode} (h : SameReport u a b) : Reported u a ↔ Reported u b := by
  have hraise := raise_for_tags_congr h.tags
  have hcode := h.tags Tag.RETURN_CODE (by decide)
  constructor
  · rintro ⟨hno, hverdict⟩
    rw [hraise, hcode] at hverdict
    exact ⟨h.gateway.mp hno, hverdict⟩
  · rintro ⟨hno, hverdict⟩
    rw [← hraise, ← hcode] at hverdict
    exact ⟨h.gateway.mpr hno, hverdict⟩

/-- Records of other kinds make no difference to the report. -/
theorem of_middle {u : Unicode} {before after : List (ℕ × Bytes)}
    (ha : ∀ r ∈ a, r.1 ∉ verdictTags ∧ r.1 < 256 ^ 2 ∧ r.1 ≠ 0x2A45) (hane : a ≠ [])
    (hb : ∀ r ∈ b, r.1 ∉ verdictTags ∧ r.1 < 256 ^ 2 ∧ r.1 ≠ 0x2A45) (hbne : b ≠ []) :
    SameReport u (before ++ a ++ after) (before ++ b ++ after) where
  gateway := ⟨no_gateway_congr (fun r hr => (hb r hr).2) hbne,
    no_gateway_congr (fun r hr => (ha r hr).2) hane⟩
  tags := get_congr (fun r hr => (ha r hr).1) fun r hr => (hb r hr).1

/-- Two replies with one report and the same values end in the same way. -/
theorem parse_alike (h : SameReport p.u a b) (hfits : ∀ r ∈ a, Records.Fits Tag.TERMINATOR r)
    (hfits' : ∀ r ∈ b, Records.Fits Tag.TERMINATOR r) {desc : FunctionDesc}
    {dm : List (ℕ × PyStr)}
    (hnamed : extract_named_values p.codec (Records.stream Tag.TERMINATOR a) dm =
      extract_named_values p.codec (Records.stream Tag.TERMINATOR b) dm) :
    Alike p.u a (parse_invoke_response p (Records.stream Tag.TERMINATOR a) desc dm)
      (parse_invoke_response p (Records.stream Tag.TERMINATOR b) desc dm) := by
  by_cases hreported : Reported p.u a
  · have heq : parse_invoke_response p (Records.stream Tag.TERMINATOR a) desc dm =
        parse_invoke_response p (Records.stream Tag.TERMINATOR b) desc dm := by
      rw [parse_of_reported hfits hreported,
        parse_of_reported hfits' (h.reported_iff.mp hreported), raise_for_tags_congr h.tags,
        decode_result_eq, decode_result_eq, hnamed]
    exact ⟨congrArg (Except.mapError PyError.kind) heq, fun _ => heq⟩
  · obtain ⟨text, htext⟩ := parse_of_unreported hfits hreported desc dm
    obtain ⟨text', htext'⟩ := parse_of_unreported hfits' (mt h.reported_iff.mpr hreported) desc dm
    refine ⟨?_, fun hyes => absurd hyes hreported⟩
    rw [htext, htext']
    rfl

end SameReport

end SapRfc.Analysis.Replies
