/-!
# Configuration

Sizes are in bytes and times in milliseconds. A configuration is built from
settings, each of which replaces one field; the last setting of a field wins.
-/

namespace WebSocket

structure Config where
  /-- Whether outbound frames are masked. -/
  useMask : Bool := true
  origin : Option String := none
  maxFrameSize : Nat := 16 * 1024 * 1024
  maxMessageSize : Nat := 64 * 1024 * 1024
  /-- How much is asked for in one read. -/
  readChunkSize : Nat := 1500
  /-- The first capacity of the outbound queue. -/
  writeBufferSize : Nat := 16 * 1024
  connectTimeout : Nat := 10000
  /-- The time for writing the request and reading the response together. -/
  handshakeTimeout : Nat := 10000
  drainTimeout : Nat := 5000
  nodelay : Bool := true
  /-- Whether the accept key of the response is checked. -/
  verifyAccept : Bool := false
deriving DecidableEq, Repr

namespace Config

inductive Setting
  | useMask (enabled : Bool)
  | origin (value : String)
  | maxFrameSize (size : Nat)
  | maxMessageSize (size : Nat)
  | readChunkSize (size : Nat)
  | writeBufferSize (size : Nat)
  | connectTimeout (milliseconds : Nat)
  | handshakeTimeout (milliseconds : Nat)
  | drainTimeout (milliseconds : Nat)
  | nodelay (enabled : Bool)
  | verifyAccept (enabled : Bool)
deriving DecidableEq, Repr

/-- Applies one setting. An empty origin sends none, and a read asks for at
least one byte. -/
def set (config : Config) : Setting → Config
  | .useMask enabled => { config with useMask := enabled }
  | .origin value => { config with origin := if value.isEmpty then none else some value }
  | .maxFrameSize size => { config with maxFrameSize := size }
  | .maxMessageSize size => { config with maxMessageSize := size }
  | .readChunkSize size => { config with readChunkSize := max size 1 }
  | .writeBufferSize size => { config with writeBufferSize := size }
  | .connectTimeout milliseconds => { config with connectTimeout := milliseconds }
  | .handshakeTimeout milliseconds => { config with handshakeTimeout := milliseconds }
  | .drainTimeout milliseconds => { config with drainTimeout := milliseconds }
  | .nodelay enabled => { config with nodelay := enabled }
  | .verifyAccept enabled => { config with verifyAccept := enabled }

def build (settings : List Setting) : Config := settings.foldl set {}

end Config

end WebSocket
