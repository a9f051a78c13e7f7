import OpenFsd.Fsd.Visibility
import OpenFsd.Go.Exact
import OpenFsd.Library.Sphere

namespace OpenFsd
namespace Fsd

open Transition RealOrNaN Sphere

/-!
# Distances and bounding boxes

The distance is that of the sphere, and goes around it.  The boxes are those of
a flat map whose longitudes are stretched at the latitude of the client, and
end at the antimeridian.

In exact arithmetic a box always reaches the latitude of every client within
the range.  `range_search_iff` says when it reaches the longitude as well.  At a
pole the stretching divides by zero, and a bound that is not a number excludes
nothing.
-/

/-- Where a client is, in degrees, and how far it sees, in meters. -/
structure Position where
  lat : Real
  lon : Real
  range : Real

/-- The client has a position on the globe and a range. -/
structure Placed (client : Client RealOrNaN) (position : Position) : Prop where
  coords : client.coords = (real position.lat, real position.lon)
  visRange : client.visRange = real position.range
  latitude : -90 ≤ position.lat ∧ position.lat ≤ 90
  longitude : -180 ≤ position.lon ∧ position.lon ≤ 180
  range : 0 ≤ position.range

noncomputable def radians (degrees : Real) : Real :=
  degrees * (Real.pi / 180)

noncomputable def metersPerDegree : Real :=
  Real.pi * 6371000 / 180

namespace Position

variable (position : Position)

/-- The circle of latitude is a point. -/
def AtPole : Prop :=
  Real.cos (radians position.lat) = 0

/-- Half the height of the box, in degrees. -/
noncomputable def deltaLat : Real :=
  position.range / metersPerDegree

/-- Half the width of the box, in degrees. -/
noncomputable def deltaLon : Real :=
  position.range / (metersPerDegree * Real.cos (radians position.lat))

/-- The widths of the two boxes bridge the difference of the longitudes, as
numbers between -180 and 180, unless a client is at a pole. -/
def LongitudesMeet (other : Position) : Prop :=
  position.AtPole ∨ other.AtPole ∨
    |other.lon - position.lon| ≤ position.deltaLon + other.deltaLon

end Position

/-- The other client is no further away than the client sees. -/
def Server.InRange (s : Server RealOrNaN) (id other : SessionId) : Prop :=
  Exists fun dist => Exists fun range =>
    s.distanceTo id other = real dist ∧ (s.clients id).visRange = real range ∧ dist ≤ range

/-! ## The box -/

theorem metersPerDegree_pos : 0 < metersPerDegree := by
  have positive := Real.pi_pos
  unfold metersPerDegree
  positivity

variable {s : Server RealOrNaN} {id other : SessionId} {position target : Position}

theorem box_latitude (placed : Placed (s.clients id) position) :
    (s.currentBox id).min.1 = real (position.lat - position.deltaLat) ∧
      (s.currentBox id).max.1 = real (position.lat + position.deltaLat) := by
  have divided := div_real (ne_of_gt metersPerDegree_pos) position.range
  unfold Server.currentBox calculateBoundingBox
  rw [placed.coords, placed.visRange]
  have height : real position.range / GoFloat.metersPerDegreeLat = real position.deltaLat := divided
  dsimp only
  rw [height]
  exact ⟨rfl, rfl⟩

theorem box_longitude (placed : Placed (s.clients id) position) (away : ¬ position.AtPole) :
    (s.currentBox id).min.2 = real (position.lon - position.deltaLon) ∧
      (s.currentBox id).max.2 = real (position.lon + position.deltaLon) := by
  have nonzero := mul_ne_zero (ne_of_gt metersPerDegree_pos) away
  have width : real position.range / (GoFloat.metersPerDegreeLat *
      GoFloat.cos (real position.lat * GoFloat.degToRad)) = real position.deltaLon :=
    div_real nonzero position.range
  unfold Server.currentBox calculateBoundingBox
  rw [placed.coords, placed.visRange]
  dsimp only
  rw [width]
  exact ⟨rfl, rfl⟩

theorem box_longitude_of_pole (placed : Placed (s.clients id) position) (pole : position.AtPole) :
    (s.currentBox id).min.2 = nan ∧ (s.currentBox id).max.2 = nan := by
  have width : real position.range / (GoFloat.metersPerDegreeLat *
      GoFloat.cos (real position.lat * GoFloat.degToRad)) = nan := by
    have zero : (GoFloat.metersPerDegreeLat : RealOrNaN) *
        GoFloat.cos (real position.lat * GoFloat.degToRad) = real 0 := by
      apply congrArg real
      exact mul_eq_zero_of_right _ pole
    rw [zero, RealOrNaN.div_zero]
  unfold Server.currentBox calculateBoundingBox
  rw [placed.coords, placed.visRange]
  dsimp only
  rw [width]
  exact ⟨sub_nan _, add_nan _⟩

/-- Two boxes meet if they meet along both axes. -/
theorem intersects_iff (placed : Placed (s.clients id) position)
    (targeted : Placed (s.clients other) target) :
    Box.intersects (s.currentBox id) (s.currentBox other) = true ↔
      |target.lat - position.lat| ≤ position.deltaLat + target.deltaLat ∧
        position.LongitudesMeet target := by
  have lat := box_latitude placed
  have targetLat := box_latitude targeted
  have latitudes : (GoFloat.gt (s.currentBox other).min.1 (s.currentBox id).max.1 ||
      GoFloat.lt (s.currentBox other).max.1 (s.currentBox id).min.1) = false ↔
        |target.lat - position.lat| ≤ position.deltaLat + target.deltaLat := by
    unfold GoFloat.gt
    rw [lat.1, lat.2, targetLat.1, targetLat.2, lt_real, lt_real, Bool.or_eq_false_iff,
      decide_eq_false_iff_not, decide_eq_false_iff_not, not_lt, not_lt, abs_le]
    constructor
    · rintro ⟨low, high⟩
      constructor <;> linarith
    · rintro ⟨low, high⟩
      constructor <;> linarith
  have longitudes : (GoFloat.gt (s.currentBox other).min.2 (s.currentBox id).max.2 ||
      GoFloat.lt (s.currentBox other).max.2 (s.currentBox id).min.2) = false ↔
        position.LongitudesMeet target := by
    unfold GoFloat.gt
    by_cases pole : position.AtPole
    · have lon := box_longitude_of_pole placed pole
      rw [lon.1, lon.2, nan_lt, lt_nan]
      exact iff_of_true rfl (Or.inl pole)
    · by_cases targetPole : target.AtPole
      · have lon := box_longitude_of_pole targeted targetPole
        rw [lon.1, lon.2, nan_lt, lt_nan]
        exact iff_of_true rfl (Or.inr (Or.inl targetPole))
      · have lon := box_longitude placed pole
        have targetLon := box_longitude targeted targetPole
        have meet : position.LongitudesMeet target ↔
            |target.lon - position.lon| ≤ position.deltaLon + target.deltaLon := by
          unfold Position.LongitudesMeet
          rw [or_iff_right pole, or_iff_right targetPole]
        rw [meet, lon.1, lon.2, targetLon.1, targetLon.2, lt_real, lt_real,
          Bool.or_eq_false_iff, decide_eq_false_iff_not, decide_eq_false_iff_not, not_lt, not_lt,
          abs_le]
        constructor
        · rintro ⟨low, high⟩
          constructor <;> linarith
        · rintro ⟨low, high⟩
          constructor <;> linarith
  rw [← latitudes, ← longitudes, ← Bool.or_eq_false_iff, ← Bool.not_eq_true']
  rfl

/-! ## The distance -/

theorem isLatitude_radians (placed : Placed (s.clients id) position) :
    IsLatitude (radians position.lat) := by
  have positive := Real.pi_pos
  unfold IsLatitude radians
  constructor
  · nlinarith [placed.latitude.1]
  · nlinarith [placed.latitude.2]

/-- The sum under the two roots is the haversine. -/
theorem haversine_real (lat1 lon1 lat2 lon2 : Real) :
    GoFloat.sin ((real lat2 - real lat1) * GoFloat.degToRad * GoFloat.ofRat (1 / 2)) *
          GoFloat.sin ((real lat2 - real lat1) * GoFloat.degToRad * GoFloat.ofRat (1 / 2)) +
        GoFloat.cos (real lat1 * GoFloat.degToRad) * GoFloat.cos (real lat2 * GoFloat.degToRad) *
            GoFloat.sin ((real lon2 - real lon1) * GoFloat.degToRad * GoFloat.ofRat (1 / 2)) *
          GoFloat.sin ((real lon2 - real lon1) * GoFloat.degToRad * GoFloat.ofRat (1 / 2)) =
      real (haversine (radians lat1) (radians lon1) (radians lat2) (radians lon2)) := by
  have half : forall first second : Real,
      (second - first) * (Real.pi / 180) * (((1 / 2 : Rat) : Rat) : Real) =
        (radians second - radians first) / 2 := by
    intro first second
    unfold radians
    push_cast
    ring
  have sum : Real.sin ((lat2 - lat1) * (Real.pi / 180) * (((1 / 2 : Rat) : Rat) : Real)) *
        Real.sin ((lat2 - lat1) * (Real.pi / 180) * (((1 / 2 : Rat) : Rat) : Real)) +
      Real.cos (lat1 * (Real.pi / 180)) * Real.cos (lat2 * (Real.pi / 180)) *
          Real.sin ((lon2 - lon1) * (Real.pi / 180) * (((1 / 2 : Rat) : Rat) : Real)) *
        Real.sin ((lon2 - lon1) * (Real.pi / 180) * (((1 / 2 : Rat) : Rat) : Real)) =
      haversine (radians lat1) (radians lon1) (radians lat2) (radians lon2) := by
    rw [half, half]
    unfold haversine radians
    ring
  exact congrArg real sum

/-- Between the poles the distance is a number, that of the sphere. -/
theorem distance_real {lat1 lon1 lat2 lon2 : Real} (first : IsLatitude (radians lat1))
    (second : IsLatitude (radians lat2)) :
    distance (real lat1) (real lon1) (real lat2) (real lon2) =
      real (6371000 * centralAngle (radians lat1) (radians lon1) (radians lat2) (radians lon2)) := by
  have quantity := haversine_real lat1 lon1 lat2 lon2
  have nonneg : 0 ≤ haversine (radians lat1) (radians lon1) (radians lat2) (radians lon2) :=
    haversine_nonneg first second
  have le : haversine (radians lat1) (radians lon1) (radians lat2) (radians lon2) ≤ 1 :=
    haversine_le_one first second
  unfold distance centralAngle
  dsimp only
  rw [quantity]
  generalize haversine (radians lat1) (radians lon1) (radians lat2) (radians lon2) = value
    at nonneg le ⊢
  have rest : (GoFloat.ofRat 1 : RealOrNaN) - real value = real (1 - value) := by
    refine congrArg real ?_
    push_cast
    rfl
  rw [rest, sqrt_real nonneg, sqrt_real (sub_nonneg.mpr le), atan2_real, arg_sqrt nonneg le]
  refine congrArg real ?_
  push_cast
  rfl

theorem distanceTo_eq (placed : Placed (s.clients id) position)
    (targeted : Placed (s.clients other) target) :
    s.distanceTo id other = real (6371000 * centralAngle (radians position.lat)
      (radians position.lon) (radians target.lat) (radians target.lon)) := by
  unfold Server.distanceTo
  rw [placed.coords, targeted.coords]
  exact distance_real (isLatitude_radians placed) (isLatitude_radians targeted)

/-- A box reaches the latitude of every client in range. -/
theorem latitudes_meet (placed : Placed (s.clients id) position)
    (targeted : Placed (s.clients other) target) (inRange : s.InRange id other) :
    |target.lat - position.lat| ≤ position.deltaLat + target.deltaLat := by
  rcases inRange with ⟨dist, range, measured, sees, near⟩
  have angle : |radians target.lat - radians position.lat| ≤
      centralAngle (radians position.lat) (radians position.lon) (radians target.lat)
        (radians target.lon) :=
    abs_sub_le_centralAngle (isLatitude_radians placed) (isLatitude_radians targeted)
  have scaled : |radians target.lat - radians position.lat| =
      |target.lat - position.lat| * (Real.pi / 180) := by
    unfold radians
    rw [← sub_mul, abs_mul, abs_of_pos (by positivity : 0 < Real.pi / 180)]
  have positive := metersPerDegree_pos
  have meters : |target.lat - position.lat| * metersPerDegree ≤ position.range := by
    have sameRange : range = position.range := real_inj (sees.symm.trans placed.visRange)
    have sameDist := real_inj (measured.symm.trans (distanceTo_eq placed targeted))
    calc |target.lat - position.lat| * metersPerDegree
        = 6371000 * |radians target.lat - radians position.lat| := by
          rw [scaled]
          unfold metersPerDegree
          ring
      _ ≤ dist := by
          rw [sameDist]
          exact mul_le_mul_of_nonneg_left angle (by norm_num)
      _ ≤ position.range := sameRange ▸ near
  have reach : |target.lat - position.lat| ≤ position.deltaLat := by
    unfold Position.deltaLat
    exact (le_div_iff₀ positive).mpr meters
  have more : 0 ≤ target.deltaLat := div_nonneg targeted.range positive.le
  linarith

/-! ## The search -/

/-- The boxes of two clients in range meet exactly if they meet in longitude. -/
theorem range_intersects_iff (placed : Placed (s.clients id) position)
    (targeted : Placed (s.clients other) target) :
    (s.InRange id other -> Box.intersects (s.currentBox id) (s.currentBox other) = true) ↔
      (s.InRange id other -> position.LongitudesMeet target) := by
  constructor
  · intro sound inRange
    exact ((intersects_iff placed targeted).mp (sound inRange)).2
  · intro meet inRange
    exact (intersects_iff placed targeted).mpr
      ⟨latitudes_meet placed targeted inRange, meet inRange⟩

/-- For two registered clients on the globe, the boxes meet whenever the other
client is in range, exactly if the longitudes do; and between operations this
is also when a search from the one visits the other. -/
theorem range_search_iff {heap : SessionId -> Client RealOrNaN} {office : Office RealOrNaN}
    (reached : Reaches Office.step (Office.start heap) office)
    (registered : office.server.Registered id) (otherRegistered : office.server.Registered other)
    (different : other ≠ id) (placed : Placed (office.server.clients id) position)
    (targeted : Placed (office.server.clients other) target) :
    ((office.server.InRange id other ->
        Box.intersects (office.server.currentBox id) (office.server.currentBox other) = true) ↔
      (office.server.InRange id other -> position.LongitudesMeet target)) ∧
    (office.Quiescent ->
      ((office.server.InRange id other -> other ∈ office.server.foundBy id) ↔
        (office.server.InRange id other -> position.LongitudesMeet target))) := by
  have boxes := range_intersects_iff placed targeted
  refine ⟨boxes, ?_⟩
  intro quiescent
  rw [← boxes]
  apply forall_congr'
  intro inRange
  have found := (Office.search_agrees reached quiescent registered).2.1 other
  rw [found]
  exact ⟨fun all => all.2.2, fun meets => ⟨different, otherRegistered, meets⟩⟩

/-! ## Two clients on the equator -/

def equatorData (callsign : Bytes) : LoginData :=
  ⟨[], callsign, 0, [], 0, 0, 100, 0, 0, false⟩

/-- Clients on the equator that see 50 nautical miles far, one at each end. -/
noncomputable def equator (west east : Real) : Office RealOrNaN :=
  Office.start fun id =>
    { newClient [] (equatorData (if id = 0 then bytes "WEST" else bytes "EAST")) with
      coords := (real 0, real (if id = 0 then west else east))
      visRange := real 92600 }

/-- Both of them register. -/
theorem exists_equator {west east : Real} (westLongitude : -180 ≤ west ∧ west ≤ 180)
    (eastLongitude : -180 ≤ east ∧ east ≤ 180) : Exists fun office =>
      Reaches Office.step (equator west east) office ∧ office.Quiescent ∧
        office.server.Registered 0 ∧ office.server.Registered 1 ∧
        Placed (office.server.clients 0) ⟨0, west, 92600⟩ ∧
        Placed (office.server.clients 1) ⟨0, east, 92600⟩ := by
  have latitude : (-90 : Real) ≤ 0 ∧ (0 : Real) ≤ 90 := by norm_num
  have range : (0 : Real) ≤ 92600 := by norm_num
  refine ⟨_, ⟨[(0, .registerMap), (0, .registerTree), (1, .registerMap), (1, .registerTree)], rfl⟩,
    ?_, rfl, rfl, ?_, ?_⟩
  · intro id
    match id with
    | 0 => exact True.intro
    | 1 => exact True.intro
    | _ + 2 => exact True.intro
  · exact ⟨rfl, rfl, latitude, westLongitude, range⟩
  · exact ⟨rfl, rfl, latitude, eastLongitude, range⟩

/-- A tenth of a degree apart. -/
theorem range_search_iff_equator : Exists fun office : Office RealOrNaN =>
    office.server.Registered 0 ∧ office.server.Registered 1 ∧
      ((office.server.InRange 0 1 -> 1 ∈ office.server.foundBy 0) ↔
        (office.server.InRange 0 1 ->
          (⟨0, 0, 92600⟩ : Position).LongitudesMeet ⟨0, 0.1, 92600⟩)) := by
  have westLongitude : (-180 : Real) ≤ 0 ∧ (0 : Real) ≤ 180 := by norm_num
  have eastLongitude : (-180 : Real) ≤ 0.1 ∧ (0.1 : Real) ≤ 180 := by norm_num
  rcases exists_equator westLongitude eastLongitude with
    ⟨office, reached, quiescent, west, east, placed, targeted⟩
  exact ⟨office, west, east,
    (range_search_iff reached west east (by decide) placed targeted).2 quiescent⟩

/-- Two clients at one place on the antimeridian, which one of them calls 180
degrees east and the other 180 degrees west, do not find each other. -/
theorem antimeridian_not_found : ¬ forall (heap : SessionId -> Client RealOrNaN)
    (office : Office RealOrNaN) (id other : SessionId) (position target : Position),
    Reaches Office.step (Office.start heap) office -> office.Quiescent ->
      office.server.Registered id -> office.server.Registered other -> other ≠ id ->
      Placed (office.server.clients id) position -> Placed (office.server.clients other) target ->
      office.server.InRange id other -> other ∈ office.server.foundBy id := by
  intro always
  have westLongitude : (-180 : Real) ≤ -180 ∧ (-180 : Real) ≤ 180 := by norm_num
  have eastLongitude : (-180 : Real) ≤ 180 ∧ (180 : Real) ≤ 180 := by norm_num
  rcases exists_equator westLongitude eastLongitude with
    ⟨office, reached, quiescent, west, east, placed, targeted⟩
  have around : Real.sin ((radians 180 - radians (-180)) / 2) = 0 := by
    have half : (radians 180 - radians (-180)) / 2 = Real.pi := by
      unfold radians
      ring
    rw [half, Real.sin_pi]
  have nothing : haversine (radians 0) (radians (-180)) (radians 0) (radians 180) = 0 := by
    unfold haversine
    rw [around, sub_self, zero_div, Real.sin_zero]
    ring
  have inRange : office.server.InRange 0 1 := by
    refine ⟨_, _, distanceTo_eq placed targeted, placed.visRange, ?_⟩
    show 6371000 * centralAngle (radians 0) (radians (-180)) (radians 0) (radians 180) ≤ 92600
    unfold centralAngle
    rw [nothing, Real.sqrt_zero, Real.arcsin_zero]
    norm_num
  have found := always _ office 0 1 _ _ reached quiescent west east (by decide) placed targeted inRange
  have meets := ((Office.search_agrees reached quiescent west).2.1 1).mp found
  have meet := ((intersects_iff placed targeted).mp meets.2.2).2
  have level : Real.cos (radians 0) = 1 := by
    unfold radians
    rw [zero_mul, Real.cos_zero]
  unfold Position.LongitudesMeet Position.AtPole Position.deltaLon at meet
  dsimp only at meet
  rw [level, mul_one] at meet
  rcases meet with pole | pole | near
  · exact one_ne_zero pole
  · exact one_ne_zero pole
  · -- Each of the boxes is less than four degrees wide.
    have narrow : (92600 : Real) / metersPerDegree < 2 := by
      rw [div_lt_iff₀ metersPerDegree_pos]
      unfold metersPerDegree
      linarith [Real.two_le_pi]
    rw [abs_of_nonneg (by norm_num)] at near
    linarith

end Fsd
end OpenFsd
