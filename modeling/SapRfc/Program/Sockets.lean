import SapRfc.Library.ChunkedReads
import SapRfc.Program.Transport

/-!
# Sockets and stream readers

A TCP stream arrives in pieces.  The blocking transport reads its socket in a loop; the
asynchronous one reads a `StreamReader`, whose buffer is filled as pieces arrive.  Both read
the same frames.
-/

set_option autoImplicit false

namespace SapRfc.Program

open SapRfc.Library

/-- A socket: the pieces that the peer has sent; behind them it has closed. -/
abbrev Socket : Type := List Bytes

/-- `asyncio.StreamReader` -/
abbrev StreamReader : Type := ChunkedReads.Feed UInt8

/-- SOURCE: transport.py:187-203.  `sock.recv_into` takes of the first piece what fits. -/
def recv_exactly (n : ℕ) : Eff PyError Socket Bytes := ChunkedReads.gather short_read n

/-- `StreamReader.readexactly` -/
def readexactly (n : ℕ) : Eff PyError StreamReader Bytes := ChunkedReads.await incomplete_read n

/-- SOURCE: transport.py:233-250.  `Transport.recv_message`. -/
def Socket.recv_message (u : Unicode) : Eff PyError Socket Bytes :=
  Program.recv_message u recv_exactly

/-- SOURCE: transport.py:375-395.  `AsyncTransport.recv_message`. -/
def StreamReader.recv_message (u : Unicode) : Eff PyError StreamReader Bytes :=
  Program.recv_message u readexactly

end SapRfc.Program
