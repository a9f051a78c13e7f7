import OpenFsd.Fsd.Client

namespace OpenFsd

/-!
# What the repository imports

The packages that the repository calls but does not contain are one
parameter of the development: golang-jwt, bcrypt, MD5, the JSON decoder for a
token header, and the request validator.  The definitions that follow it are
for every such platform.  Two assumptions about it are named here and used by
the results that need them: signing and parsing a token agree, and a bcrypt
hash verifies the password it was made from and no other.
-/

/-- `jwt.RegisteredClaims`, the part that the issuer sets and the parser
checks. -/
structure RegisteredClaims where
  issuer : Bytes
  expiresAt : Option Fsd.Time
  notBefore : Option Fsd.Time
  issuedAt : Option Fsd.Time
  jti : Bytes
  deriving DecidableEq

/-- `CustomFields` -/
structure CustomFields where
  tokenType : Bytes
  cid : Int
  firstName : Bytes
  lastName : Bytes
  networkRating : Fsd.NetworkRating
  deriving DecidableEq

/-- `CustomClaims` -/
structure CustomClaims extends RegisteredClaims, CustomFields
  deriving DecidableEq

/-- The header fields that `mostLikelyJwt` decodes. -/
structure JwtHeader where
  alg : Bytes
  typ : Bytes
  deriving DecidableEq

structure Platform where
  /-- `md5.Sum` -/
  md5 : Bytes -> List.Vector UInt8 16
  /-- `json.Unmarshal` into a `jwtHeader`, without a value for an error -/
  unmarshalJwtHeader : Bytes -> Option JwtHeader
  /-- `token.SignedString(key)` -/
  signedString : CustomClaims -> Bytes -> Option Bytes
  /-- The claims that a raw token carries in its payload -/
  payload : Bytes -> Option CustomClaims
  /-- Whether the HS256 signature of a raw token verifies under a key -/
  verifies : Bytes -> Bytes -> Bool
  /-- `bcrypt.GenerateFromPassword`, with the salt that it draws -/
  generateFromPassword : Bytes -> Bytes -> Option Bytes
  /-- `bcrypt.CompareHashAndPassword(hash, password) == nil` -/
  compareHashAndPassword : Bytes -> Bytes -> Bool
  /-- Whether the validator lets a nil pointer pass `min` and `max` tags -/
  nilPassesMinMax : Bool

namespace Platform

/-- A signed token verifies under its key and carries the signed identity.
Names are left out: their encoding replaces bytes that are not UTF-8. -/
def FaithfulTokens (P : Platform) : Prop :=
  forall claims key raw, P.signedString claims key = some raw ->
    P.verifies raw key = true ∧
      Exists fun carried => P.payload raw = some carried ∧ carried.cid = claims.cid ∧
        carried.tokenType = claims.tokenType ∧ carried.networkRating = claims.networkRating

/-- A hash of a password verifies that password and no other. -/
def IdealHashing (P : Platform) : Prop :=
  forall salt password hash, P.generateFromPassword salt password = some hash ->
    forall presented, P.compareHashAndPassword hash presented = true ↔ presented = password

/-- The raw token carries this CID. -/
def CarriesCid (P : Platform) (raw : Bytes) (cid : Int) : Prop :=
  Exists fun claims => P.payload raw = some claims ∧ claims.cid = cid

end Platform
end OpenFsd
