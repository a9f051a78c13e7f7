import OpenFsd.Fsd.Util

namespace OpenFsd
namespace Fsd

/-!
# Packet types and the checks made on every received packet

The tables of `packet.go`.  Dispatch depends on the first one or three bytes
only; the source callsign is the first field without that prefix, except for
a pilot position, whose first field is the transponder mode.
-/

/-- `PacketType` -/
inductive PacketType
  | unknown
  | textMessage
  | pilotPosition
  | pilotPositionFast
  | pilotPositionSlow
  | pilotPositionStopped
  | atcPosition
  | deleteATC
  | deletePilot
  | clientQuery
  | clientQueryResponse
  | proController
  | squawkbox
  | metarRequest
  | killRequest
  | authChallenge
  | handoffRequest
  | handoffAccept
  | flightPlan
  | flightPlanAmendment
  deriving DecidableEq, Repr

def sourceCallsignFieldIndex : PacketType -> Nat
  | .pilotPosition => 1
  | _ => 0

/-- The packet types that start with `#`. -/
def hashPacketType (start : Bytes) : PacketType :=
  if start = bytes "#DA" then .deleteATC
  else if start = bytes "#DP" then .deletePilot
  else if start = bytes "#TM" then .textMessage
  else if start = bytes "#SL" then .pilotPositionSlow
  else if start = bytes "#ST" then .pilotPositionStopped
  else if start = bytes "#PC" then .proController
  else if start = bytes "#SB" then .squawkbox
  else .unknown

/-- The packet types that start with `$`. -/
def dollarPacketType (start : Bytes) : PacketType :=
  if start = bytes "$CQ" then .clientQuery
  else if start = bytes "$CR" then .clientQueryResponse
  else if start = bytes "$AX" then .metarRequest
  else if start = bytes "$!!" then .killRequest
  else if start = bytes "$ZC" then .authChallenge
  else if start = bytes "$HO" then .handoffRequest
  else if start = bytes "$HA" then .handoffAccept
  else if start = bytes "$FP" then .flightPlan
  else if start = bytes "$AM" then .flightPlanAmendment
  else .unknown

/-- `getPacketType`.  Its only callers have checked that the packet has at
least eight bytes, so the index and both slices of the source exist. -/
def getPacketType (packet : Bytes) : PacketType :=
  if packet.take 1 = bytes "^" then .pilotPositionFast
  else if packet.take 1 = bytes "@" then .pilotPosition
  else if packet.take 1 = bytes "%" then .atcPosition
  else if packet.take 1 = bytes "#" then hashPacketType (packet.take 3)
  else if packet.take 1 = bytes "$" then dollarPacketType (packet.take 3)
  else .unknown

def getPacketPrefix : PacketType -> Bytes
  | .pilotPositionFast => bytes "^"
  | .pilotPosition => bytes "@"
  | .atcPosition => bytes "%"
  | .deleteATC => bytes "#DA"
  | .deletePilot => bytes "#DP"
  | .textMessage => bytes "#TM"
  | .pilotPositionSlow => bytes "#SL"
  | .pilotPositionStopped => bytes "#ST"
  | .proController => bytes "#PC"
  | .squawkbox => bytes "#SB"
  | .clientQuery => bytes "$CQ"
  | .clientQueryResponse => bytes "$CR"
  | .metarRequest => bytes "$AX"
  | .killRequest => bytes "$!!"
  | .authChallenge => bytes "$ZC"
  | .handoffRequest => bytes "$HO"
  | .handoffAccept => bytes "$HA"
  | .flightPlan => bytes "$FP"
  | .flightPlanAmendment => bytes "$AM"
  | .unknown => []

def minFields : PacketType -> Int
  | .pilotPosition => 9
  | .pilotPositionFast => 13
  | .pilotPositionSlow => 13
  | .pilotPositionStopped => 7
  | .atcPosition => 7
  | .deleteATC => 1
  | .deletePilot => 1
  | .textMessage => 3
  | .proController => 4
  | .squawkbox => 3
  | .clientQuery => 3
  | .clientQueryResponse => 3
  | .metarRequest => 4
  | .killRequest => 3
  | .authChallenge => 3
  | .handoffRequest => 3
  | .handoffAccept => 3
  | .flightPlan => 17
  | .flightPlanAmendment => 18
  | .unknown => -1

theorem getPacketPrefix_hashPacketType (start : Bytes) :
    getPacketPrefix (hashPacketType start) = [] ∨ getPacketPrefix (hashPacketType start) = start := by
  unfold hashPacketType
  repeat' split
  all_goals first
    | exact Or.inl rfl
    | exact Or.inr (Eq.symm ‹_›)

theorem getPacketPrefix_dollarPacketType (start : Bytes) :
    getPacketPrefix (dollarPacketType start) = [] ∨
      getPacketPrefix (dollarPacketType start) = start := by
  unfold dollarPacketType
  repeat' split
  all_goals first
    | exact Or.inl rfl
    | exact Or.inr (Eq.symm ‹_›)

/-- A packet starts with the prefix of its detected type. -/
theorem hasPrefix_getPacketPrefix (packet : Bytes) :
    hasPrefix packet (getPacketPrefix (getPacketType packet)) = true := by
  have empty : forall start : Bytes, start = [] -> hasPrefix packet start = true := by
    intro start equal
    rw [equal]
    rfl
  have taken : forall (count : Nat) (start : Bytes), start = packet.take count ->
      hasPrefix packet start = true := by
    intro count start equal
    rw [hasPrefix, List.isPrefixOf_iff_prefix, equal]
    exact List.take_prefix count packet
  unfold getPacketType
  by_cases fast : packet.take 1 = bytes "^"
  · rw [if_pos fast]
    exact taken 1 _ fast.symm
  rw [if_neg fast]
  by_cases pilot : packet.take 1 = bytes "@"
  · rw [if_pos pilot]
    exact taken 1 _ pilot.symm
  rw [if_neg pilot]
  by_cases atc : packet.take 1 = bytes "%"
  · rw [if_pos atc]
    exact taken 1 _ atc.symm
  rw [if_neg atc]
  by_cases hash : packet.take 1 = bytes "#"
  · rw [if_pos hash]
    rcases getPacketPrefix_hashPacketType (packet.take 3) with none | found
    · exact empty _ none
    · exact taken 3 _ found
  rw [if_neg hash]
  by_cases dollar : packet.take 1 = bytes "$"
  · rw [if_pos dollar]
    rcases getPacketPrefix_dollarPacketType (packet.take 3) with none | found
    · exact empty _ none
    · exact taken 3 _ found
  rw [if_neg dollar]
  exact empty _ rfl

def getSourceCallsign (packet : Bytes) (packetType : PacketType) : Bytes :=
  (cutPrefix (getField packet (sourceCallsignFieldIndex packetType))
    (getPacketPrefix packetType)).1

def verifySourceCallsign (packet : Bytes) (packetType : PacketType) (callsign : Bytes) : Bool :=
  decide (getSourceCallsign packet packetType = callsign)

/-- The result of `verifyPacket`: the detected type, or the error packet that
the client is sent. -/
inductive Verified
  | accepted (packetType : PacketType)
  | refused (code : Int) (message : Bytes)
  deriving DecidableEq, Repr

/-- `verifyPacket` -/
def verifyPacket (packet callsign : Bytes) : Verified :=
  let numFields := countFields packet
  if packet.length < 8 ∨ numFields < 3 then .refused SyntaxError (bytes "Packet too short")
  else
    let packetType := getPacketType packet
    if packetType = .unknown then .refused SyntaxError (bytes "Unknown packet type")
    else if !verifySourceCallsign packet packetType callsign then
      .refused SourceInvalidError (bytes "Source invalid")
    else if (numFields : Int) < minFields packetType then
      .refused SyntaxError (bytes "Minimum field count requirement not satisfied")
    else .accepted packetType

/-- An accepted packet has its detected type, at least eight bytes, the
client's callsign as its source, and enough fields. -/
theorem verifyPacket_accepted {packet callsign : Bytes} {packetType : PacketType}
    (accepted : verifyPacket packet callsign = .accepted packetType) :
    packetType = getPacketType packet ∧ 8 ≤ packet.length ∧
      getSourceCallsign packet packetType = callsign ∧
      minFields packetType ≤ countFields packet := by
  unfold verifyPacket at accepted
  simp only at accepted
  split_ifs at accepted with short unknown source fields
  have same : getPacketType packet = packetType := Verified.accepted.inj accepted
  rw [same] at source fields
  refine ⟨same.symm, by omega, ?_, by omega⟩
  simpa [verifySourceCallsign] using source

/-- The type of an accepted packet is known. -/
theorem verifyPacket_ne_unknown {packet callsign : Bytes} :
    verifyPacket packet callsign ≠ .accepted .unknown := by
  intro accepted
  unfold verifyPacket at accepted
  simp only at accepted
  split_ifs at accepted with short unknown source fields
  exact unknown (Verified.accepted.inj accepted)

end Fsd
end OpenFsd
