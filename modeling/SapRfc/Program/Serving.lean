import SapRfc.Program.Dispatch

/-!
# The serve step of a registered server

What the serve loop does with one inbound call: dispatch it, wrap the answer, send it, and
tell the gateway that the server waits for the next call.  Whatever raises on the way is
logged and dropped.
-/

set_option autoImplicit false

namespace SapRfc.Program

open SapRfc.Library

/-- A gateway frame of 80 bytes: its type, the byte at 30, the field at 40, the size at 48 and
the last four bytes. -/
def gw_frame (type : ℕ) (flag : UInt8) (conv_id size last : Bytes) : Bytes :=
  toBE 2 type ++ [0x07, 0x00, 0xFF, 0xFF] ++ List.replicate 24 0 ++ [flag] ++
    List.replicate 9 0 ++ conv_id ++ size ++ List.replicate 24 0 ++ last

/-- SOURCE: server.py:183-203. -/
def build_reg_waiting : Bytes :=
  gw_frame 0x06D1 0x01 (encodeAsciiReplace (lit "H0000001")) [0, 0, 0, 0x50]
    [0xFF, 0xFF, 0xFF, 0xFF]

/-- SOURCE: server.py:218-231. -/
def build_post_call_b (gw_handle : Bytes) : Bytes :=
  gw_frame 0x060B 0x00 gw_handle [0, 0, 0, 0] [0xFF, 0xFF, 0x00, 0x01]

/-- SOURCE: server.py:234-249. -/
def build_post_call_d2 (gw_handle : Bytes) : Bytes :=
  gw_frame 0x06D2 0x01 gw_handle [0, 0, 0, 0x50] [0xFF, 0xFF, 0x00, 0x01]

/-- The server, and what it has sent to its gateway so far. -/
structure Serving (χ : Type) where
  server : ServerWorld χ
  sent : List Bytes

section Serving

variable {χ V : Type}

/-- `transport.send_message`, on a link that takes every message. -/
def gw_send (message : Bytes) : Eff PyError (Serving χ) Unit :=
  Eff.update fun s => { s with sent := s.sent ++ [message] }

/-- The server's own work. -/
def serving {α : Type} (x : Eff PyError (ServerWorld χ) α) : Eff PyError (Serving χ) α :=
  Eff.zoom Serving.server (fun w s => { s with server := w }) x

/-- SOURCE: server.py:1673-1688, the body of the `try`. -/
def dispatch_and_send (p : Platform V) (srv : RfcServer χ V) (frame gw_handle : Bytes) :
    Eff PyError (Serving χ) Unit := do
  let response_tlv ← serving (dispatch_inbound p srv frame)
  let full_response ← Eff.lift (wrap_in_0608 response_tlv gw_handle)
  gw_send full_response
  gw_send (build_post_call_b gw_handle)
  gw_send (build_post_call_d2 gw_handle)
  gw_send build_reg_waiting

/-- SOURCE: server.py:1664-1690. -/
def dispatch_and_reply_sync (p : Platform V) (srv : RfcServer χ V) (frame gw_handle : Bytes) :
    Eff PyError (Serving χ) Unit := do
  let _ ← attempt (dispatch_and_send p srv frame gw_handle)
  pure ()

end Serving

end SapRfc.Program
