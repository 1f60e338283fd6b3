import SecureGateway.Tls.EngineFailure

namespace SecureGateway

inductive ContentType where
  | changeCipherSpec
  | alert
  | handshake
  | applicationData
  | heartbeat
  deriving DecidableEq, Repr

namespace ContentType

def code : ContentType → UInt8
  | changeCipherSpec => 0x14
  | alert => 0x15
  | handshake => 0x16
  | applicationData => 0x17
  | heartbeat => 0x18

def ofCode? (b : UInt8) : Option ContentType :=
  [changeCipherSpec, alert, handshake, applicationData, heartbeat].find? fun c => c.code == b

def text : ContentType → String
  | changeCipherSpec => "ChangeCipherSpec"
  | alert => "Alert"
  | handshake => "Handshake"
  | applicationData => "ApplicationData"
  | heartbeat => "Heartbeat"

end ContentType

inductive Version where
  | tls12
  | tls13
  deriving DecidableEq, Repr

namespace Version

def code : Version → Nat
  | tls12 => 0x0303
  | tls13 => 0x0304

def text : Version → String
  | tls12 => "TLSv1_2"
  | tls13 => "TLSv1_3"

end Version

/-- A record. Its version says nothing about the session; one of 1.2 is written there. -/
structure Envelope where
  content : ContentType
  payload : Bytes
  version : Nat := Version.code .tls12
  deriving DecidableEq, Repr

namespace Envelope

def headerSize : Nat := 5

def payloadBound : Nat := 16384 + 2048

/-- Any version of the 3.x family, and a few older ones. -/
def isVersion (v : Nat) : Bool :=
  v / 256 == 3 || [0x0200, 0xfeff, 0xfefd, 0xfefc].contains v

def encode (e : Envelope) : Bytes :=
  e.content.code :: Bytes.ofNat 2 e.version ++ Bytes.sized 2 e.payload

/-- Takes one record off the front, `none` while it is incomplete. The type, the version and the
length are each judged as soon as they are there. -/
def read? : Bytes → Except Corruption (Option (Envelope × Bytes))
  | [] => .ok none
  | kind :: r =>
    match ContentType.ofCode? kind with
    | none => .error .invalidContentType
    | some content =>
      match r with
      | hi :: lo :: r =>
        let version := Bytes.toNat [hi, lo]
        if !isVersion version then .error .unknownProtocolVersion
        else
          match r with
          | a :: b :: r =>
            let n := Bytes.toNat [a, b]
            if n = 0 ∧ content ≠ .applicationData then .error .invalidEmptyPayload
            else if payloadBound ≤ n then .error .messageTooLarge
            else if r.length < n then .ok none
            else .ok (some (⟨content, r.take n, version⟩, r.drop n))
          | _ => .ok none
      | _ => .ok none

end Envelope

def fragmentSize : Nat := 16384

/-- Cuts content into pieces that fit a record; nothing makes no piece. -/
def fragments (bs : Bytes) : List Bytes :=
  if _h : bs = [] then []
  else bs.take fragmentSize :: fragments (bs.drop fragmentSize)
termination_by bs.length
decreasing_by
  have : 0 < bs.length := List.length_pos_iff.2 _h
  simp only [List.length_drop, fragmentSize]
  omega

end SecureGateway
