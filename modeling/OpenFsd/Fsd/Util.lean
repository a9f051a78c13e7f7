import OpenFsd.Go.Strconv
import OpenFsd.Go.Float

namespace OpenFsd
namespace Fsd

/-!
# Fields, callsigns, ratings and facilities

The pure helpers of `util.go` that read a packet or decide what a client may
do.  A packet is a colon-separated line; `getField` and `rebaseToNextField`
walk over the separators and never fail, so an index beyond the last field
quietly reads the last field again.
-/

/-! ## Error codes and ratings -/

def CallsignInUseError : Int := 1
def CallsignInvalidError : Int := 2
def SyntaxError : Int := 4
def SourceInvalidError : Int := 5
def InvalidLogonError : Int := 6
def NoSuchCallsignError : Int := 7
def NoWeatherProfileError : Int := 9
def InvalidProtocolRevisionError : Int := 10
def RequestedLevelTooHighError : Int := 11
def CertificateSuspendedError : Int := 13
def InvalidControlError : Int := 14
def InvalidPositionForRatingError : Int := 15
def UnauthorizedSoftwareError : Int := 16

/-- `NetworkRating`, an `int` that no code restricts to the named ratings. -/
abbrev NetworkRating := Int

def NetworkRatingSuspended : NetworkRating := 0
def NetworkRatingObserver : NetworkRating := 1
def NetworkRatingStudent1 : NetworkRating := 2
def NetworkRatingStudent2 : NetworkRating := 3
def NetworkRatingStudent3 : NetworkRating := 4
def NetworkRatingController1 : NetworkRating := 5
def NetworkRatingSupervisor : NetworkRating := 11
def NetworkRatingAdministator : NetworkRating := 12

/-! ## Fields -/

def countFields (packet : Bytes) : Nat :=
  countByte packet colon + 1

def rebaseToNextField (packet : Bytes) : Bytes :=
  packet.drop (indexByte packet colon + 1).toNat

/-- The loop of `getField`: skip the given number of fields. -/
def rebaseFields : Nat -> Bytes -> Bytes
  | 0, packet => packet
  | count + 1, packet => rebaseFields count (rebaseToNextField packet)

def getField (packet : Bytes) (index : Nat) : Bytes :=
  let rest := rebaseFields index packet
  let position := indexByte rest colon
  let field := if position ≠ -1 then rest.take position.toNat else rest
  (cutSuffix field crlf).1

example : getField (bytes "#TMAAL1:BAW2:hi\r\n") 2 = bytes "hi" := by decide

/-! ## Callsigns -/

def isValidCallsignLength (callsign : Bytes) : Bool :=
  decide (callsign.length ≤ 10) && decide (2 ≤ callsign.length)

def reservedCallsigns : List Bytes :=
  [bytes "SERVER", bytes "CLIENT", bytes "FP"]

/-- The characters of a callsign: digits, upper-case letters, `-` and `_`. -/
def isCallsignByte (b : UInt8) : Bool :=
  (decide (byte '0' ≤ b) && decide (b ≤ byte '9')) ||
    (decide (byte 'A' ≤ b) && decide (b ≤ byte 'Z')) ||
    (b == byte '-' || b == byte '_')

def isValidClientCallsign (callsign : Bytes) : Bool :=
  if !isValidCallsignLength callsign then false
  else if !callsign.all isCallsignByte then false
  else if reservedCallsigns.contains callsign then false
  else true

/-! ## Facilities -/

/-- The lookup in the map of `isAllowedFacilityType`, which answers the zero
value for a facility type that it does not list. -/
def minFacilityRating (facilityType : Int) : NetworkRating :=
  if facilityType = 1 then NetworkRatingController1
  else if facilityType = 2 then NetworkRatingStudent1
  else if facilityType = 3 then NetworkRatingStudent1
  else if facilityType = 4 then NetworkRatingStudent2
  else if facilityType = 5 then NetworkRatingStudent3
  else if facilityType = 6 then NetworkRatingController1
  else 0

def isAllowedFacilityType (rating : NetworkRating) (facilityType : Int) : Bool :=
  if facilityType = 0 then true
  else if minFacilityRating facilityType = 0 then false
  else decide (minFacilityRating facilityType ≤ rating)

theorem isAllowedFacilityType_zero (rating : NetworkRating) :
    isAllowedFacilityType rating 0 = true :=
  rfl

/-! ## Positions -/

variable {F : Type} [GoFloat F]

def parseLatLon (packet : Bytes) (latIndex lonIndex : Nat) : Option (F × F) :=
  match GoFloat.parseFloat (getField packet latIndex) with
  | none => none
  | some lat =>
      match GoFloat.parseFloat (getField packet lonIndex) with
      | none => none
      | some lon => some (lat, lon)

def parseVisRange (packet : Bytes) (index : Nat) : Option F :=
  match GoFloat.parseFloat (getField packet index) with
  | none => none
  | some nauticalMiles => some (nauticalMiles * GoFloat.ofRat 1852)

/-- The third result of `pitchBankHeading`. -/
def packedHeading (packed : Nat) : F :=
  GoFloat.ofRat ((packed / 2 ^ 2 % 1024 : Nat) : Rat) * GoFloat.ofRat (359 / 1023)

/-! ## Flight plans -/

def buildFlightplanPacket (start fplInfo : Bytes) : Bytes :=
  start ++ fplInfo ++ crlf

def buildFileFlightplanPacket (source recipient fplInfo : Bytes) : Bytes :=
  buildFlightplanPacket (bytes "$FP" ++ source ++ [colon] ++ recipient ++ [colon]) fplInfo

def buildAmendFlightplanPacket (source recipient targetCallsign fplInfo : Bytes) : Bytes :=
  buildFlightplanPacket
    (bytes "$AM" ++ source ++ [colon] ++ recipient ++ [colon] ++ targetCallsign ++ [colon]) fplInfo

def buildBeaconCodePacket (source recipient targetCallsign beaconCode : Bytes) : Bytes :=
  bytes "#PC" ++ source ++ [colon] ++ recipient ++ bytes ":CCP:BC:" ++ targetCallsign ++
    [colon] ++ beaconCode ++ crlf

/-- The packet of both `sendError` functions. -/
def errorPacket (code : Int) (message : Bytes) : Bytes :=
  bytes "$ERserver:unknown:" ++ itoa code ++ bytes "::" ++ message ++ crlf

/-- The packet of `sendSendFastPacket`. -/
def sendFastPacket (callsign : Bytes) (enabled : Bool) : Bytes :=
  bytes "$SFSERVER:" ++ callsign ++ [colon] ++ (if enabled then bytes "1" else bytes "0") ++ crlf

end Fsd
end OpenFsd
