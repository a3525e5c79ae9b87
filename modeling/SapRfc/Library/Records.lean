import SapRfc.Library.Bytes

/-!
# Tag-length-value streams

A record is `[tag 2][length 2][value][tag 2]`, all numbers big-endian.  A length of
`0xFFFF` announces a second, four-byte length; the closing tag is skipped when it is
there and not missed when it is not.  A record with the tag `last` ends the stream.

`scan` reads one record, `walk` reads to the end.  A reader differs from another only
in what it makes of the records and of how the walk ended, so every such reader is a
function of `walk`.  The results are about `encode`, the writer: a walk reads back
what was written, and on a stream cut short it says so.
-/

set_option autoImplicit false

namespace SapRfc.Library.Records

/-- What one turn of the reader finds. -/
inductive Scan where
  /-- fewer than four bytes are left -/
  | short
  /-- the record that ends the stream -/
  | terminator
  /-- an announced four-byte length is cut; `left` bytes follow the header -/
  | headless (tag left : ℕ)
  /-- the value runs past the end; `left` bytes are there of `declared` -/
  | overrun (tag : ℕ) (extended : Bool) (declared left : ℕ)
  /-- a whole record, and what follows it -/
  | record (tag : ℕ) (value rest : Bytes)
  deriving DecidableEq, Repr

/-- Skip the closing tag, if it is there. -/
def skipClose (tag : ℕ) (b : Bytes) : Bytes :=
  if 2 ≤ b.length ∧ ofBE (b.take 2) = tag then b.drop 2 else b

/-- Read a value of `len` bytes and its closing tag. -/
def takeValue (tag : ℕ) (extended : Bool) (len : ℕ) (b : Bytes) : Scan :=
  if b.length < len then .overrun tag extended len b.length
  else .record tag (b.take len) (skipClose tag (b.drop len))

/-- Read one record of a stream that the tag `last` ends. -/
def scan (last : ℕ) (b : Bytes) : Scan :=
  if b.length < 4 then .short
  else
    let tag := ofBE (b.take 2)
    let len := ofBE ((b.drop 2).take 2)
    let body := b.drop 4
    if tag = last then .terminator
    else if len = 0xFFFF then
      if body.length < 4 then .headless tag body.length
      else takeValue tag true (ofBE (body.take 4)) (body.drop 4)
    else takeValue tag false len body

/-- The records of a stream, and what stopped the reader. -/
structure Walk where
  records : List (ℕ × Bytes)
  ending : Scan
  deriving DecidableEq, Repr

/-- Put a record in front of a walk. -/
def Walk.push (tag : ℕ) (value : Bytes) (w : Walk) : Walk :=
  ⟨(tag, value) :: w.records, w.ending⟩

/-- INTERNAL: the reader with a bound on its turns. -/
def walkFuel (last : ℕ) : ℕ → Bytes → Walk
  | 0, _ => ⟨[], .short⟩
  | fuel + 1, b =>
    match scan last b with
    | .record tag value rest => (walkFuel last fuel rest).push tag value
    | other => ⟨[], other⟩

/-- Read a stream to its end.  Every record takes four bytes at least, so one turn
for each byte is enough. -/
def walk (last : ℕ) (b : Bytes) : Walk :=
  walkFuel last (b.length + 1) b

/-- Write one record, in the extended form from `0xFFFF` bytes on. -/
def encode (tag : ℕ) (data : Bytes) : Bytes :=
  if 0xFFFF ≤ data.length then
    toBE 2 tag ++ [0xFF, 0xFF] ++ toBE 4 data.length ++ data ++ toBE 2 tag
  else
    toBE 2 tag ++ toBE 2 data.length ++ data ++ toBE 2 tag

/-- A record its writer and its reader agree on: the tag and the length fit their
fields, and the tag is not the one that ends the stream. -/
structure Fits (last : ℕ) (r : ℕ × Bytes) : Prop where
  tag_lt : r.1 < 256 ^ 2
  tag_ne : r.1 ≠ last
  length_lt : r.2.length < 256 ^ 4

instance (last : ℕ) (r : ℕ × Bytes) : Decidable (Fits last r) :=
  decidable_of_iff (r.1 < 256 ^ 2 ∧ r.1 ≠ last ∧ r.2.length < 256 ^ 4)
    ⟨fun h => ⟨h.1, h.2.1, h.2.2⟩, fun h => ⟨h.tag_lt, h.tag_ne, h.length_lt⟩⟩

/-! ## One turn -/

theorem length_skipClose_le (tag : ℕ) (b : Bytes) : (skipClose tag b).length ≤ b.length := by
  unfold skipClose
  split
  · simp
  · exact Nat.le_refl _

/-- INTERNAL: a closing tag that is there is skipped. -/
theorem skipClose_close {tag : ℕ} (h : tag < 256 ^ 2) (rest : Bytes) :
    skipClose tag (toBE 2 tag ++ rest) = rest := by
  have htake : (toBE 2 tag ++ rest).take 2 = toBE 2 tag := by
    rw [List.take_append_of_le_length (by simp), List.take_of_length_le (by simp)]
  have hdrop : (toBE 2 tag ++ rest).drop 2 = rest := by
    rw [List.drop_append_of_le_length (by simp), List.drop_eq_nil_of_le (by simp), List.nil_append]
  unfold skipClose
  rw [htake, hdrop, ofBE_toBE_of_lt h, if_pos ⟨by simp, rfl⟩]

/-- INTERNAL: fewer than two bytes are no closing tag. -/
theorem skipClose_of_length_lt {tag : ℕ} {b : Bytes} (h : b.length < 2) : skipClose tag b = b := by
  unfold skipClose
  rw [if_neg (by omega)]

theorem takeValue_of_lt {tag len : ℕ} {b : Bytes} (extended : Bool) (h : b.length < len) :
    takeValue tag extended len b = .overrun tag extended len b.length := by
  unfold takeValue
  rw [if_pos h]

theorem takeValue_append {tag : ℕ} (extended : Bool) (value b : Bytes) :
    takeValue tag extended value.length (value ++ b) = .record tag value (skipClose tag b) := by
  unfold takeValue
  rw [if_neg (by simp)]
  simp

/-- A record takes at least its four header bytes. -/
theorem length_rest_of_scan {last tag : ℕ} {b value rest : Bytes}
    (h : scan last b = .record tag value rest) : rest.length + 4 ≤ b.length := by
  have htake : ∀ {ext : Bool} {len : ℕ} {body : Bytes},
      takeValue (ofBE (b.take 2)) ext len body = .record tag value rest →
        rest.length ≤ body.length := by
    intro ext len body hv
    unfold takeValue at hv
    split at hv
    · cases hv
    · cases hv
      exact (length_skipClose_le _ _).trans (by simp)
  unfold scan at h
  split at h
  · cases h
  · simp only at h
    split at h
    · cases h
    · split at h
      · split at h
        · cases h
        · have := htake h
          simp only [List.length_drop] at this
          omega
      · have := htake h
        simp only [List.length_drop] at this
        omega

theorem scan_short {last : ℕ} {b : Bytes} (h : b.length < 4) : scan last b = .short := by
  unfold scan
  rw [if_pos h]

/-- INTERNAL: the header fields of a stream that begins with a tag and a length. -/
theorem scan_header {last tag len : ℕ} (htag : tag < 256 ^ 2) (hlen : len < 256 ^ 2)
    (body : Bytes) :
    scan last (toBE 2 tag ++ toBE 2 len ++ body) =
      if tag = last then .terminator
      else if len = 0xFFFF then
        if body.length < 4 then .headless tag body.length
        else takeValue tag true (ofBE (body.take 4)) (body.drop 4)
      else takeValue tag false len body := by
  have h1 : (toBE 2 tag ++ toBE 2 len ++ body).take 2 = toBE 2 tag := by
    rw [List.append_assoc, List.take_append_of_le_length (by simp),
      List.take_of_length_le (by simp)]
  have h2 : (toBE 2 tag ++ toBE 2 len ++ body).drop 2 = toBE 2 len ++ body := by
    rw [List.append_assoc, List.drop_append_of_le_length (by simp),
      List.drop_eq_nil_of_le (by simp), List.nil_append]
  have h3 : (toBE 2 len ++ body).take 2 = toBE 2 len := by
    rw [List.take_append_of_le_length (by simp), List.take_of_length_le (by simp)]
  have h4 : (toBE 2 tag ++ toBE 2 len ++ body).drop 4 = body := by
    rw [List.drop_append_of_le_length (by simp), List.drop_eq_nil_of_le (by simp),
      List.nil_append]
  unfold scan
  rw [if_neg (by simp; omega), h1, h2, h3, h4, ofBE_toBE_of_lt htag, ofBE_toBE_of_lt hlen]

/-- A stream that begins with the last tag and a length field ends there. -/
theorem scan_terminator {last : ℕ} (h : last < 256 ^ 2) {b : Bytes} (hb : 4 ≤ b.length)
    (htag : b.take 2 = toBE 2 last) : scan last b = .terminator := by
  unfold scan
  rw [if_neg (by omega), htag, ofBE_toBE_of_lt h, if_pos rfl]

/-! ## Writing and reading one record -/

/-- The header and the value of a record, without its closing tag. -/
def opened (tag : ℕ) (data : Bytes) : Bytes :=
  if 0xFFFF ≤ data.length then toBE 2 tag ++ [0xFF, 0xFF] ++ (toBE 4 data.length ++ data)
  else toBE 2 tag ++ toBE 2 data.length ++ data

theorem encode_eq_opened (tag : ℕ) (data : Bytes) :
    encode tag data = opened tag data ++ toBE 2 tag := by
  unfold encode opened
  split <;> simp

theorem length_opened_ge (tag : ℕ) (data : Bytes) : 4 ≤ (opened tag data).length := by
  unfold opened
  split <;> simp <;> omega

theorem length_encode (tag : ℕ) (data : Bytes) :
    (encode tag data).length = (opened tag data).length + 2 := by
  rw [encode_eq_opened]
  simp

/-- A record takes at most ten bytes more than its value. -/
theorem length_encode_le (tag : ℕ) (data : Bytes) :
    (encode tag data).length ≤ data.length + 10 := by
  unfold encode
  split <;> simp <;> omega

/-- INTERNAL: once header and value are there, the record is read, whatever follows. -/
theorem scan_opened {last : ℕ} {r : ℕ × Bytes} (h : Fits last r) (rest : Bytes) :
    scan last (opened r.1 r.2 ++ rest) = .record r.1 r.2 (skipClose r.1 rest) := by
  unfold opened
  split
  · have hff : ([0xFF, 0xFF] : Bytes) = toBE 2 0xFFFF := by decide
    rw [hff, List.append_assoc, scan_header h.tag_lt (by norm_num), if_neg h.tag_ne,
      if_pos rfl, if_neg (by simp)]
    rw [List.append_assoc, List.take_append_of_le_length (by simp),
      List.take_of_length_le (by simp), ofBE_toBE_of_lt h.length_lt,
      List.drop_append_of_le_length (by simp), List.drop_eq_nil_of_le (by simp),
      List.nil_append, takeValue_append]
  · rename_i hlen
    rw [List.append_assoc, scan_header h.tag_lt (by norm_num; omega), if_neg h.tag_ne,
      if_neg (by omega), takeValue_append]

/-- The reader reads back what the writer wrote. -/
theorem scan_encode {last : ℕ} {r : ℕ × Bytes} (h : Fits last r) (rest : Bytes) :
    scan last (encode r.1 r.2 ++ rest) = .record r.1 r.2 rest := by
  rw [encode_eq_opened, List.append_assoc, scan_opened h, skipClose_close h.tag_lt]

/-- INTERNAL: a stream that stops inside the header or the value of its first record
yields no record, and does not end either. -/
theorem scan_take_opened {last : ℕ} {r : ℕ × Bytes} (h : Fits last r) {m : ℕ}
    (hm : m < (opened r.1 r.2).length) :
    (∀ tag value rest, scan last ((opened r.1 r.2).take m) ≠ .record tag value rest) ∧
      scan last ((opened r.1 r.2).take m) ≠ .terminator := by
  by_cases h4 : m < 4
  · rw [scan_short (by simp; omega)]
    exact ⟨nofun, nofun⟩
  by_cases hlen : 0xFFFF ≤ r.2.length
  · have hff : ([0xFF, 0xFF] : Bytes) = toBE 2 0xFFFF := by decide
    have hcut : (opened r.1 r.2).take m =
        toBE 2 r.1 ++ toBE 2 0xFFFF ++ (toBE 4 r.2.length ++ r.2).take (m - 4) := by
      unfold opened
      rw [if_pos hlen, hff, List.take_append, List.take_of_length_le (by simp; omega)]
      simp
    have hsize : (opened r.1 r.2).length = r.2.length + 8 := by
      unfold opened
      rw [if_pos hlen]
      simp
      omega
    rw [hcut, scan_header h.tag_lt (by norm_num), if_neg h.tag_ne, if_pos rfl]
    by_cases h8 : m < 8
    · rw [if_pos (by simp; omega)]
      exact ⟨nofun, nofun⟩
    · have hval : (toBE 4 r.2.length ++ r.2).take (m - 4) =
          toBE 4 r.2.length ++ r.2.take (m - 8) := by
        rw [List.take_append, List.take_of_length_le (by simp; omega)]
        simp only [length_toBE]
        congr 2
      rw [if_neg (by simp; omega), hval, List.take_append_of_le_length (by simp),
        List.take_of_length_le (by simp), ofBE_toBE_of_lt h.length_lt,
        List.drop_append_of_le_length (by simp), List.drop_eq_nil_of_le (by simp),
        List.nil_append, takeValue_of_lt _ (by simp; omega)]
      exact ⟨nofun, nofun⟩
  · have hcut : (opened r.1 r.2).take m =
        toBE 2 r.1 ++ toBE 2 r.2.length ++ r.2.take (m - 4) := by
      unfold opened
      rw [if_neg hlen, List.take_append, List.take_of_length_le (by simp; omega)]
      simp
    have hsize : (opened r.1 r.2).length = r.2.length + 4 := by
      unfold opened
      rw [if_neg hlen]
      simp
      omega
    rw [hcut, scan_header h.tag_lt (by norm_num; omega), if_neg h.tag_ne,
      if_neg (by omega), takeValue_of_lt _ (by simp; omega)]
    exact ⟨nofun, nofun⟩

/-! ## The whole walk -/

/-- INTERNAL: turns beyond the length of the stream change nothing. -/
theorem walkFuel_stable (last : ℕ) : ∀ (m n : ℕ) (b : Bytes), b.length < m → b.length < n →
    walkFuel last m b = walkFuel last n b := by
  intro m
  induction m with
  | zero => intro n b hm; omega
  | succ m ih =>
    intro n b hm hn
    cases n with
    | zero => omega
    | succ n =>
      unfold walkFuel
      cases hs : scan last b with
      | record tag value rest =>
        have := length_rest_of_scan hs
        simp only
        rw [ih n rest (by omega) (by omega)]
      | short => rfl
      | terminator => rfl
      | headless _ _ => rfl
      | overrun _ _ _ _ => rfl

/-- A walk that finds a record goes on behind it. -/
theorem walk_of_record {last tag : ℕ} {b value rest : Bytes}
    (h : scan last b = .record tag value rest) :
    walk last b = (walk last rest).push tag value := by
  have hlen := length_rest_of_scan h
  have hstep : walk last b = (walkFuel last b.length rest).push tag value := by
    unfold walk
    rw [walkFuel, h]
  rw [hstep, walkFuel_stable last b.length (rest.length + 1) rest (by omega) (by omega)]
  rfl

/-- A walk that finds no record ends. -/
theorem walk_of_not_record {last : ℕ} {b : Bytes}
    (h : ∀ tag value rest, scan last b ≠ .record tag value rest) :
    walk last b = ⟨[], scan last b⟩ := by
  unfold walk
  rw [walkFuel]
  cases hs : scan last b with
  | record tag value rest => exact absurd hs (h tag value rest)
  | short => rfl
  | terminator => rfl
  | headless _ _ => rfl
  | overrun _ _ _ _ => rfl

/-- Records, then the record that ends the stream. -/
def stream (last : ℕ) (rs : List (ℕ × Bytes)) : Bytes :=
  rs.flatMap (fun r => encode r.1 r.2) ++ encode last []

theorem stream_cons (last : ℕ) (r : ℕ × Bytes) (rs : List (ℕ × Bytes)) :
    stream last (r :: rs) = encode r.1 r.2 ++ stream last rs := by
  simp [stream]

theorem length_stream_ge (last : ℕ) (rs : List (ℕ × Bytes)) : 6 ≤ (stream last rs).length := by
  simp [stream, encode]

/-- A walk finds the records that were written, and goes on behind them. -/
theorem walk_written {last : ℕ} {rs : List (ℕ × Bytes)} (h : ∀ r ∈ rs, Fits last r)
    (b : Bytes) : walk last (rs.flatMap (fun r => encode r.1 r.2) ++ b) =
      ⟨rs ++ (walk last b).records, (walk last b).ending⟩ := by
  induction rs with
  | nil => rfl
  | cons r rs ih =>
    rw [List.flatMap_cons, List.append_assoc, walk_of_record (scan_encode (h r (by simp)) _),
      ih (fun q hq => h q (by simp [hq]))]
    rfl

/-- Round trip: a walk of a written stream finds its records and its end. -/
theorem walk_stream {last : ℕ} (hlast : last < 256 ^ 2) {rs : List (ℕ × Bytes)}
    (h : ∀ r ∈ rs, Fits last r) (rest : Bytes) :
    walk last (stream last rs ++ rest) = ⟨rs, .terminator⟩ := by
  have hs : scan last (encode last [] ++ rest) = .terminator := by
    apply scan_terminator hlast
    · simp [encode]
      omega
    · simp [encode]
  unfold stream
  rw [List.append_assoc, walk_written h, walk_of_not_record (by rw [hs]; exact nofun), hs,
    List.append_nil]

/-- INTERNAL: a stream cut inside its terminator has ended exactly when the tag and the
length of the terminator are there. -/
theorem ending_take_terminator {last : ℕ} (hlast : last < 256 ^ 2) (m : ℕ) :
    (walk last ((stream last []).take m)).ending = .terminator ↔ 4 ≤ m := by
  have hlen : (stream last []).length = 6 := by simp [stream, encode]
  by_cases h4 : m < 4
  · have hs : scan last ((stream last []).take m) = .short :=
      scan_short (by simp only [List.length_take]; omega)
    rw [walk_of_not_record (by rw [hs]; exact nofun), hs]
    exact ⟨nofun, fun h => absurd h (by omega)⟩
  · have hs : scan last ((stream last []).take m) = .terminator := by
      apply scan_terminator hlast
      · simp only [List.length_take]
        omega
      · rw [List.take_take, Nat.min_eq_left (by omega)]
        simp [stream, encode]
    rw [walk_of_not_record (by rw [hs]; exact nofun), hs]
    exact ⟨fun _ => by omega, fun _ => rfl⟩

/-- The reader takes a prefix of a written stream for the whole exactly when no more
than the terminator's closing tag is missing. -/
theorem ending_take_stream {last : ℕ} (hlast : last < 256 ^ 2) {rs : List (ℕ × Bytes)}
    (h : ∀ r ∈ rs, Fits last r) (m : ℕ) :
    (walk last ((stream last rs).take m)).ending = .terminator ↔
      (stream last rs).length ≤ m + 2 := by
  induction rs generalizing m with
  | nil =>
    have hlen : (stream last []).length = 6 := by simp [stream, encode]
    rw [ending_take_terminator hlast, hlen]
    omega
  | cons r rs ih =>
    have hr := h r (by simp)
    have htail := length_stream_ge last rs
    have hrec := length_encode r.1 r.2
    have hsize : (stream last (r :: rs)).length =
        (encode r.1 r.2).length + (stream last rs).length := by
      rw [stream_cons, List.length_append]
    by_cases hfull : (encode r.1 r.2).length ≤ m
    · -- the first record is there: the cut lies in the rest
      have hcut : (stream last (r :: rs)).take m =
          encode r.1 r.2 ++ (stream last rs).take (m - (encode r.1 r.2).length) := by
        rw [stream_cons, List.take_append, List.take_of_length_le hfull]
      rw [hcut, walk_of_record (scan_encode hr _)]
      show (walk last _).ending = .terminator ↔ _
      rw [ih (fun q hq => h q (by simp [hq]))]
      omega
    · have hcut : (stream last (r :: rs)).take m = (encode r.1 r.2).take m := by
        rw [stream_cons, List.take_append_of_le_length (by omega)]
      have hnot : ¬ (stream last (r :: rs)).length ≤ m + 2 := by omega
      rw [hcut]
      by_cases hopen : (opened r.1 r.2).length ≤ m
      · -- only the closing tag is cut: less than a header is left behind it
        have hval : (encode r.1 r.2).take m =
            opened r.1 r.2 ++ (toBE 2 r.1).take (m - (opened r.1 r.2).length) := by
          rw [encode_eq_opened, List.take_append, List.take_of_length_le hopen]
        have hrest : ((toBE 2 r.1).take (m - (opened r.1 r.2).length)).length < 2 := by
          simp only [List.length_take, length_toBE]
          omega
        rw [hval, walk_of_record (scan_opened hr _), skipClose_of_length_lt hrest]
        have hs : scan last ((toBE 2 r.1).take (m - (opened r.1 r.2).length)) = .short :=
          scan_short (by omega)
        rw [walk_of_not_record (by rw [hs]; exact nofun), hs]
        exact ⟨nofun, fun hc => absurd hc hnot⟩
      · have hval : (encode r.1 r.2).take m = (opened r.1 r.2).take m := by
          rw [encode_eq_opened, List.take_append_of_le_length (by omega)]
        obtain ⟨hrec', hterm⟩ := scan_take_opened hr (m := m) (by omega)
        rw [hval, walk_of_not_record hrec']
        exact ⟨fun hc => absurd hc hterm, fun hc => absurd hc hnot⟩

/-- A prefix that holds the first record whole yields a record. -/
theorem records_take_stream {last : ℕ} {r : ℕ × Bytes} {rs : List (ℕ × Bytes)}
    (h : Fits last r) {m : ℕ} (hm : (encode r.1 r.2).length ≤ m) :
    (walk last ((stream last (r :: rs)).take m)).records ≠ [] := by
  rw [stream_cons, List.take_append, List.take_of_length_le hm, walk_of_record (scan_encode h _)]
  exact List.cons_ne_nil _ _

end SapRfc.Library.Records
