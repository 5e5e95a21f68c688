import WebSocket.Proofs.Wire.Decoding

/-!
# How a stream is cut does not matter

Chunks that are fed one after the other give the frames, the first error and
the bytes left that their concatenation gives when it is fed at once
(`feedAll_flatten`). A verdict of `Frame.decode` on a buffer is its verdict on every
longer buffer (`Frame.decode_append`), and a buffer without a complete frame is left
as it is, so frames taken before a cut and after it add up (`Takes.append`).
-/

namespace WebSocket

open Wire (lengthSize tailSize lengthSize_le_tailSize)

-- ---------------------------------------------------------------------------
-- Longer buffers
-- ---------------------------------------------------------------------------

namespace FrameHeader

theorem ofWire_append {second : UInt8} {rest : List UInt8} (h : tailSize second ≤ rest.length)
    (opcode : Opcode) (first : UInt8) (more : List UInt8) :
    ofWire opcode first second (rest ++ more) = ofWire opcode first second rest := by
  have hs := lengthSize_le_tailSize second
  have hlength : announcedLength second (rest ++ more) = announcedLength second rest := by
    apply UInt64.toNat_inj.mp
    rw [toNat_announcedLength, toNat_announcedLength, Wire.payloadLength_append h]
  simp only [ofWire, hlength, maskBit_eq, extendedSize_eq, decide_eq_true_eq]
  by_cases hm : 128 ≤ second.toNat
  · have hkey : 4 ≤ (rest.drop (lengthSize second)).length := by
      simp only [tailSize, hm, if_true] at h
      rw [List.length_drop]
      omega
    rw [List.drop_append_of_le_length (Nat.le_trans hs h), List.take_append_of_le_length hkey]
  · rw [if_neg hm, if_neg hm]

theorem parse?_append {limit : Nat} {bytes : List UInt8} (h : parse? limit bytes ≠ .ok none)
    (more : List UInt8) : parse? limit (bytes ++ more) = parse? limit bytes := by
  match bytes with
  | [] => exact absurd rfl h
  | [_] => exact absurd rfl h
  | first :: second :: rest =>
    rw [parse?_cons_cons] at h
    rw [List.cons_append, List.cons_append, parse?_cons_cons, parse?_cons_cons]
    cases ho : Opcode.ofByte? (first % 16) with
    | none => rfl
    | some opcode =>
      simp only [ho] at h ⊢
      by_cases ht : rest.length < tailSize second
      · exact absurd (if_pos ht) h
      have hle : tailSize second ≤ rest.length := Nat.not_lt.mp ht
      have hlong : ¬(rest ++ more).length < tailSize second := by
        rw [List.length_append]
        omega
      rw [if_neg hlong, if_neg ht, Wire.payloadLength_append hle, ofWire_append hle]

theorem payload_append {header : FrameHeader} {buffer : List UInt8}
    (h : header.frameLength ≤ buffer.length) (more : List UInt8) :
    header.payload (buffer ++ more) = header.payload buffer := by
  unfold frameLength at h
  unfold payload
  rw [List.drop_append_of_le_length (by omega), List.take_append_of_le_length]
  rw [List.length_drop]
  omega

end FrameHeader

namespace Frame

section
variable {limit : Nat} {bytes buffer : List UInt8} {header : FrameHeader}

theorem parse?_of_decode (h : decode limit bytes = (.ok (some header), buffer)) :
    FrameHeader.parse? limit bytes = .ok (some header) := by
  obtain ⟨header', hp, hle⟩ | ⟨answer, hanswer, hd⟩ := decode_cases limit bytes
  · rw [decode_of_le hp hle] at h
    cases h
    exact hp
  · cases hd.symm.trans h
    exact absurd rfl (hanswer header)

/-- Decoding a longer buffer changes no verdict, and nothing behind the bytes
that the verdict is about. -/
theorem decode_append {answer : Except Error (Option FrameHeader)}
    (h : decode limit bytes = (answer, buffer)) (hn : answer ≠ .ok none) (more : List UInt8) :
    decode limit (bytes ++ more) = (answer, buffer ++ more) := by
  unfold decode at h ⊢
  cases hp : FrameHeader.parse? limit bytes with
  | error e =>
    rw [hp] at h
    rw [FrameHeader.parse?_append (by rw [hp]; nofun), hp]
    cases h
    rfl
  | ok parsed =>
    cases parsed with
    | none =>
      rw [hp] at h
      exact absurd (congrArg Prod.fst h).symm hn
    | some header =>
      have hs := FrameHeader.size_le_length hp
      rw [FrameHeader.parse?_append (by rw [hp]; nofun), hp]
      simp only [hp] at h ⊢
      by_cases hl : (bytes.take header.frameLength).length < header.frameLength
      · rw [if_pos hl] at h
        exact absurd (congrArg Prod.fst h).symm hn
      have hle : header.frameLength ≤ bytes.length := by
        rw [List.length_take] at hl
        omega
      rw [if_neg hl] at h
      cases h
      rw [List.take_append_of_le_length hle, if_neg hl, FrameHeader.payload_append hle,
        List.take_append_of_le_length hs, List.drop_append_of_le_length hle]
      simp only [List.append_assoc]

theorem decode_unchanged {answer : Except Error (Option FrameHeader)}
    (h : decode limit bytes = (answer, buffer)) (hn : ∀ header, answer ≠ .ok (some header)) :
    buffer = bytes := by
  obtain ⟨header, hp, hle⟩ | ⟨answer', -, hd⟩ := decode_cases limit bytes
  · rw [decode_of_le hp hle] at h
    cases h
    exact absurd rfl (hn header)
  · cases hd.symm.trans h
    rfl

theorem drop_decode (h : decode limit bytes = (.ok (some header), buffer)) :
    buffer.drop header.frameLength = bytes.drop header.frameLength := by
  obtain ⟨-, hl⟩ := frameLength_of_decode (congrArg Prod.fst h)
  obtain ⟨_, hd, -, hdrop⟩ := decode_complete (parse?_of_decode h) hl
  cases h.symm.trans hd
  exact hdrop

end

-- ---------------------------------------------------------------------------
-- Taking frames off the front
-- ---------------------------------------------------------------------------

/-- Frames taken off the front of `bytes` as long as one is complete: the
frames, the error that ends it if there is one, and the bytes that are left. -/
inductive Takes (limit : Nat) : List UInt8 → List Frame → Option Error → List UInt8 → Prop
  | stop {bytes} (h : decode limit bytes = (.ok none, bytes)) : Takes limit bytes [] none bytes
  | refuse {bytes e} (h : decode limit bytes = (.error e, bytes)) :
      Takes limit bytes [] (some e) bytes
  | next {bytes buffer header frames error rest}
      (h : decode limit bytes = (.ok (some header), buffer))
      (t : Takes limit (buffer.drop header.frameLength) frames error rest) :
      Takes limit bytes (⟨header, header.payload buffer⟩ :: frames) error rest

def totalLength : List Frame → Nat
  | [] => 0
  | f :: frames => f.header.frameLength + totalLength frames

namespace Takes

variable {limit : Nat} {bytes more rest left : List UInt8} {frames later : List Frame}
  {error error' : Option Error}

theorem unique (h : Takes limit bytes frames error rest)
    (h' : Takes limit bytes later error' left) : frames = later ∧ error = error' ∧ rest = left := by
  induction h generalizing later error' left with
  | stop h =>
    cases h' with
    | stop => exact ⟨rfl, rfl, rfl⟩
    | refuse hd | next hd => cases h.symm.trans hd
  | refuse h =>
    cases h' with
    | refuse hd =>
      cases h.symm.trans hd
      exact ⟨rfl, rfl, rfl⟩
    | stop hd | next hd => cases h.symm.trans hd
  | next h _ ih =>
    cases h' with
    | stop hd | refuse hd => cases h.symm.trans hd
    | next hd t =>
      cases h.symm.trans hd
      obtain ⟨rfl, rfl, rfl⟩ := ih t
      exact ⟨rfl, rfl, rfl⟩

theorem ended (h : Takes limit bytes frames error rest) : Takes limit rest [] error rest := by
  induction h with
  | stop h => exact .stop h
  | refuse h => exact .refuse h
  | next _ _ ih => exact ih

theorem append (h : Takes limit bytes frames error rest)
    (t : Takes limit (rest ++ more) later error' left) :
    Takes limit (bytes ++ more) (frames ++ later) error' left := by
  induction h with
  | stop | refuse => exact t
  | @next bytes buffer header frames error rest h _ ih =>
    obtain ⟨-, hl⟩ := frameLength_of_decode (congrArg Prod.fst h)
    have hb : buffer.length = bytes.length := by
      rw [← length_decode limit bytes, h]
    have hle : header.frameLength ≤ buffer.length := hb ▸ hl
    have hn := ih t
    rw [← List.drop_append_of_le_length hle] at hn
    rw [List.cons_append, ← FrameHeader.payload_append hle more]
    exact .next (decode_append h nofun more) hn

theorem refused {e : Error} (h : Takes limit bytes [] (some e) bytes)
    (t : Takes limit (bytes ++ more) later error left) :
    later = [] ∧ error = some e ∧ left = bytes ++ more := by
  cases h with
  | refuse h => exact t.unique (.refuse (decode_append h nofun more))

theorem rest_eq (h : Takes limit bytes frames error rest) :
    rest = bytes.drop (totalLength frames) ∧ totalLength frames + rest.length = bytes.length := by
  induction h with
  | stop | refuse => exact ⟨rfl, Nat.zero_add _⟩
  | @next bytes buffer header frames error rest h _ ih =>
    obtain ⟨-, hl⟩ := frameLength_of_decode (congrArg Prod.fst h)
    obtain ⟨hr, hlen⟩ := ih
    rw [drop_decode h] at hr hlen
    rw [List.drop_drop] at hr
    rw [List.length_drop] at hlen
    refine ⟨hr, ?_⟩
    simp only [totalLength]
    omega

end Takes

end Frame

namespace ByteQueue

open WebSocket.Frame (Takes)

theorem takes_takeFrames (limit : Nat) (q : ByteQueue) :
    Takes limit q.contents (q.takeFrames limit).1 (q.takeFrames limit).2.1
      (q.takeFrames limit).2.2.contents := by
  fun_induction takeFrames limit q with
  | case1 q e buffer h =>
    obtain rfl : buffer = q.contents := Frame.decode_unchanged h nofun
    exact .refuse h
  | case2 q buffer h =>
    obtain rfl : buffer = q.contents := Frame.decode_unchanged h nofun
    exact .stop h
  | case3 q header buffer h frames error rest ht ih =>
    rw [contents_consume, contents_overwrite, ht] at ih
    exact .next h ih

-- ---------------------------------------------------------------------------
-- Chunks
-- ---------------------------------------------------------------------------

/-- Takes in chunks one after the other. Answers for each chunk the frames that
it completes and the error that their reading ends with. -/
def feedAll (limit : Nat) (q : ByteQueue) :
    List (List UInt8) → List (List Frame × Option Error) × ByteQueue
  | [] => ([], q)
  | chunk :: chunks =>
    let (frames, error, q) := q.feed limit chunk
    let (steps, q) := q.feedAll limit chunks
    ((frames, error) :: steps, q)

def framesOf (steps : List (List Frame × Option Error)) : List Frame := steps.flatMap (·.1)

def errorOf (steps : List (List Frame × Option Error)) : Option Error := steps.findSome? (·.2)

section
variable {limit : Nat} {q : ByteQueue} {error : Option Error}

theorem takes_feed (limit : Nat) (q : ByteQueue) (chunk : List UInt8) :
    Takes limit (q.contents ++ chunk) (q.feed limit chunk).1 (q.feed limit chunk).2.1
      (q.feed limit chunk).2.2.contents :=
  takes_takeFrames limit (q.append chunk)

theorem feedAll_refused {e : Error} (h : Takes limit q.contents [] (some e) q.contents)
    (chunks : List (List UInt8)) : ∀ step ∈ (q.feedAll limit chunks).1, step = ([], some e) := by
  induction chunks generalizing q with
  | nil => nofun
  | cons chunk chunks ih =>
    have ht := takes_feed limit q chunk
    obtain ⟨hf, he, hl⟩ := h.refused ht
    rw [hf, he] at ht
    intro step hm
    rcases List.mem_cons.mp hm with rfl | hm
    · exact Prod.ext hf he
    · exact ih ht.ended step hm

/-- Chunks fed to a queue without a complete frame take the frames of all their
bytes. The induction is on the chunks, over what the queue holds. -/
theorem takes_feedAll (h : Takes limit q.contents [] error q.contents)
    (chunks : List (List UInt8)) :
    Takes limit (q.contents ++ chunks.flatten) (framesOf (q.feedAll limit chunks).1)
      (error.or (errorOf (q.feedAll limit chunks).1)) (q.feedAll limit chunks).2.contents := by
  induction chunks generalizing q error with
  | nil => simpa [feedAll, framesOf, errorOf] using h
  | cons chunk chunks ih =>
    have ht := takes_feed limit q chunk
    have hn := ht.append (ih ht.ended)
    rw [List.append_assoc] at hn
    have herror : error.or (errorOf (q.feedAll limit (chunk :: chunks)).1) =
        (q.feed limit chunk).2.1.or
          (errorOf ((q.feed limit chunk).2.2.feedAll limit chunks).1) := by
      have hcons : errorOf (q.feedAll limit (chunk :: chunks)).1 =
          (q.feed limit chunk).2.1.or
            (errorOf ((q.feed limit chunk).2.2.feedAll limit chunks).1) := by
        simp only [errorOf, feedAll, List.findSome?_cons]
        cases (q.feed limit chunk).2.1 <;> rfl
      rw [hcons]
      cases error with
      | none => rfl
      | some e => rw [(h.refused ht).2.1]; rfl
    rw [herror]
    exact hn

/-- Once a chunk has brought an error, no later one brings a frame or another error. -/
theorem pairwise_feedAll (limit : Nat) (q : ByteQueue) (chunks : List (List UInt8)) :
    (q.feedAll limit chunks).1.Pairwise fun step later =>
      step.2.isSome = true → later = ([], step.2) := by
  induction chunks generalizing q with
  | nil => exact .nil
  | cons chunk chunks ih =>
    refine List.pairwise_cons.mpr ⟨?_, ih _⟩
    intro later hm hs
    obtain ⟨e, he⟩ := Option.isSome_iff_exists.mp hs
    have ht := (takes_feed limit q chunk).ended
    rw [show (q.feed limit chunk).2.1 = some e from he] at ht
    exact (feedAll_refused ht chunks later hm).trans (congrArg _ he.symm)

end

/-- A stream that is fed in chunks to an empty queue gives the frames, the first
error and the bytes left that it gives when it is fed at once. The bytes left
are its end, behind the frames, and after an error no chunk brings a frame or
another error. -/
theorem feedAll_flatten (limit : Nat) (slack : List UInt8) (chunks : List (List UInt8)) :
    let cut := (⟨[], slack⟩ : ByteQueue).feedAll limit chunks
    let whole := (⟨[], slack⟩ : ByteQueue).feed limit chunks.flatten
    framesOf cut.1 = whole.1 ∧ errorOf cut.1 = whole.2.1 ∧
      cut.2.contents = whole.2.2.contents ∧ cut.2.contents <:+ chunks.flatten ∧
      Frame.totalLength (framesOf cut.1) + cut.2.contents.length = chunks.flatten.length ∧
      cut.1.Pairwise fun step later => step.2.isSome = true → later = ([], step.2) := by
  intro cut whole
  have hstart : Takes limit [] [] none [] := .stop rfl
  have hcut : Takes limit chunks.flatten (framesOf cut.1) (errorOf cut.1) cut.2.contents :=
    takes_feedAll (q := ⟨[], slack⟩) hstart chunks
  have hwhole : Takes limit chunks.flatten whole.1 whole.2.1 whole.2.2.contents :=
    takes_feed limit ⟨[], slack⟩ chunks.flatten
  obtain ⟨hframes, herror, hleft⟩ := hcut.unique hwhole
  obtain ⟨hrest, hlength⟩ := hcut.rest_eq
  refine ⟨hframes, herror, hleft, ?_, hlength, pairwise_feedAll ..⟩
  rw [hrest]
  exact List.drop_suffix ..

end ByteQueue

end WebSocket
