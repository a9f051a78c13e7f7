import OpenFsd.Platform

namespace OpenFsd
namespace Fsd

/-!
# Tokens

`MakeJwtToken` and `ParseJwtToken` of `jwt.go`, and `mostLikelyJwt`, which
decides from the form of a login token whether it is one.
-/

/-- `issuer` -/
def jwtIssuer : Bytes := bytes "openfsd"

/-- `MakeJwtToken`, given the outcome of `uuid.NewRandom`. -/
def makeJwtToken (now : Time) (uuid : Option Bytes) (customFields : CustomFields)
    (validityDuration : Time) : Option CustomClaims :=
  match uuid with
  | none => none
  | some id => some {
      issuer := jwtIssuer
      expiresAt := some (now + validityDuration)
      notBefore := some (now - 30)
      issuedAt := some now
      jti := id
      toCustomFields := customFields }

theorem makeJwtToken_eq_some {now : Time} {uuid : Option Bytes} {customFields : CustomFields}
    {validityDuration : Time} {claims : CustomClaims}
    (made : makeJwtToken now uuid customFields validityDuration = some claims) :
    claims.toCustomFields = customFields := by
  cases uuid with
  | none => cases made
  | some id =>
      cases made
      rfl

/-- The checks of the JWT validator that `ParseJwtToken` configures: the
expiry and the start of validity where they are present, and the issuer. -/
def claimsValid (now : Time) (claims : CustomClaims) : Bool :=
  (match claims.expiresAt with
    | none => true
    | some expiry => decide (now < expiry)) &&
  (match claims.notBefore with
    | none => true
    | some start => decide (start ≤ now)) &&
  decide (claims.issuer = jwtIssuer)

/-- `ParseJwtToken` -/
def parseJwtToken (P : Platform) (now : Time) (rawToken secretKey : Bytes) : Option CustomClaims :=
  match P.payload rawToken with
  | none => none
  | some claims =>
      if P.verifies rawToken secretKey && claimsValid now claims then some claims else none

theorem parseJwtToken_eq_some {P : Platform} {now : Time} {rawToken secretKey : Bytes}
    {claims : CustomClaims} (parsed : parseJwtToken P now rawToken secretKey = some claims) :
    P.payload rawToken = some claims ∧ P.verifies rawToken secretKey = true ∧
      claimsValid now claims = true := by
  unfold parseJwtToken at parsed
  cases carried : P.payload rawToken with
  | none => simp only [carried] at parsed; cases parsed
  | some found =>
      simp only [carried] at parsed
      split at parsed
      · next valid =>
          cases parsed
          exact ⟨rfl, Bool.and_eq_true_iff.mp valid⟩
      · cases parsed

/-! ## Recognizing a token -/

/-- The value of one character of standard base64. -/
def base64Value (b : UInt8) : Option UInt8 :=
  if byte 'A' ≤ b ∧ b ≤ byte 'Z' then some (b - 65)
  else if byte 'a' ≤ b ∧ b ≤ byte 'z' then some (b - 71)
  else if byte '0' ≤ b ∧ b ≤ byte '9' then some (b + 4)
  else if b = byte '+' then some 62
  else if b = byte '/' then some 63
  else none

/-- The quanta of `base64.StdEncoding`.  Only the last one may be padded, and
the bits that padding leaves over are not checked. -/
def decodeQuanta : Bytes -> Option Bytes
  | [] => some []
  | a :: b :: c :: d :: rest =>
      match base64Value a, base64Value b with
      | some va, some vb =>
          let first := va * 4 + vb / 16
          if c = byte '=' then
            if d = byte '=' ∧ rest = [] then some [first] else none
          else
            match base64Value c with
            | none => none
            | some vc =>
                let second := vb * 16 + vc / 4
                if d = byte '=' then
                  if rest = [] then some [first, second] else none
                else
                  match base64Value d with
                  | none => none
                  | some vd => (decodeQuanta rest).map fun decoded =>
                      first :: second :: (vc * 64 + vd) :: decoded
      | _, _ => none
  | _ => none

/-- `base64.StdEncoding.AppendDecode` onto an empty buffer.  Line breaks in
the input are skipped. -/
def base64Decode (text : Bytes) : Option Bytes :=
  decodeQuanta (text.filter fun b => !(b == carriageReturn || b == lineFeed))

def mostLikelyJwt (P : Platform) (token : Bytes) : Bool :=
  if countByte token (byte '.') ≠ 2 then false
  else
    let rawJwtHeader := token.take (indexByte token (byte '.')).toNat
    match base64Decode rawJwtHeader with
    | none => false
    | some buf =>
        match P.unmarshalJwtHeader buf with
        | none => false
        | some header => !(decide (header.alg = []) || decide (header.typ = []))

example : base64Decode (bytes "YWI=") = some (bytes "ab") := by decide
example : base64Decode (bytes "eyJ") = none := by decide

end Fsd
end OpenFsd
