import WebSocket.Frame.Codec

/-!
# Frame streams

`takeFrames` empties a queue of every complete frame at its front. `feed` does
so after a further chunk has come in, which is how a stream is decoded piece by
piece.
-/

namespace WebSocket

namespace Frame

theorem frameLength_of_decode {limit : Nat} {buffer : List UInt8} {header : FrameHeader}
    (h : (decode limit buffer).1 = .ok (some header)) :
    2 ≤ header.frameLength ∧ header.frameLength ≤ buffer.length := by
  unfold decode at h
  split at h
  · next parsed hp =>
    split at h
    · cases h
    · next hl =>
      injection h with h
      injection h with h
      subst h
      have := FrameHeader.two_le_size hp
      simp only [FrameHeader.frameLength, List.length_take] at hl ⊢
      omega
  · next hn =>
    exact absurd h (hn header)

theorem length_decode (limit : Nat) (buffer : List UInt8) :
    (decode limit buffer).2.length = buffer.length := by
  unfold decode
  split
  · next header hp =>
    split
    · rfl
    · next hl =>
      have := FrameHeader.size_le_length hp
      simp only [FrameHeader.frameLength, FrameHeader.payload, List.length_take, List.length_append,
        length_applyMask, List.length_drop] at hl ⊢
      omega
  · rfl

end Frame

/-- The complete frames at the front of a queue, the error that stops their
reading if there is one, and the queue that is left. -/
def ByteQueue.takeFrames (limit : Nat) (q : ByteQueue) : List Frame × Option Error × ByteQueue :=
  match _h : Frame.decode limit q.contents with
  | (.error e, buffer) => ([], some e, q.overwrite buffer)
  | (.ok none, buffer) => ([], none, q.overwrite buffer)
  | (.ok (some header), buffer) =>
    let (frames, error, rest) :=
      ((q.overwrite buffer).consume header.frameLength).takeFrames limit
    (⟨header, header.payload buffer⟩ :: frames, error, rest)
termination_by q.contents.length
decreasing_by
  have hd : (Frame.decode limit q.contents).1 = .ok (some header) := by rw [_h]
  have hl := Frame.frameLength_of_decode hd
  have hb := Frame.length_decode limit q.contents
  simp only [_h] at hb
  simp only [ByteQueue.contents_consume, ByteQueue.contents_overwrite, List.length_drop]
  omega

def ByteQueue.feed (limit : Nat) (q : ByteQueue) (chunk : List UInt8) :
    List Frame × Option Error × ByteQueue :=
  (q.append chunk).takeFrames limit

end WebSocket
