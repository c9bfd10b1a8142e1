import WebKeys.Layout.Point
import WebKeys.Primitives
import WebKeys.Proofs.Bytes

/-!
# Uncompressed points have one form

A key whose point is on its curve (`EcKey.PointOnCurve`) is written in the full width of the field
and read back without its private part and its form (`ofPoint_toPoint`). Conversely a byte string
that is read is what the key is written as (`toPoint_of_ofPoint`): the length fixes the width of
both coordinates, and a coordinate below the prime has only one spelling of that width.
-/

namespace WebKeys.EcKey

open Outcome

attribute [local instance (2000)] instPowNat

/-! ## Curves -/

/-- Coordinates and scalars fit the width of the field. -/
theorem bounds_of_equation? {c : Curve} {e : Weierstrass.Equation}
    (h : Weierstrass.equation? c = some e) : e.p ≤ 256 ^ c.size ∧ e.order ≤ 256 ^ c.size := by
  cases c <;> simp only [Weierstrass.equation?, Option.some.injEq, reduceCtorEq] at h <;>
    subst h <;> decide +kernel

theorem size_pos (c : Curve) : 0 < c.size := by
  cases c <;> decide

theorem family_of_equation? {c : Curve} {e : Weierstrass.Equation}
    (h : Weierstrass.equation? c = some e) : c.family = .ec := by
  cases c <;> simp_all [Weierstrass.equation?, Curve.family]

theorem pointSize_eq {c : Curve} (h : c.family = .ec) : c.pointSize = 1 + 2 * c.size := by
  rw [Curve.pointSize, if_pos h]

/-! ## Points on a curve -/

/-- The key's coordinates are those of a point on the key's curve, which is an elliptic one. -/
def PointOnCurve (k : EcKey) : Prop :=
  ∃ e, Weierstrass.equation? k.curve = some e ∧ onCurve e k.x k.y = true

/-- The public point alone. -/
def bare (k : EcKey) : EcKey := { curve := k.curve, x := k.x, y := k.y }

theorem PointOnCurve.family {k : EcKey} (h : k.PointOnCurve) : k.curve.family = .ec := by
  obtain ⟨e, he, -⟩ := h
  exact family_of_equation? he

/-- Both coordinates are natural numbers that fit the width of the field. -/
theorem PointOnCurve.range {k : EcKey} (h : k.PointOnCurve) :
    (0 ≤ k.x ∧ k.x < 256 ^ k.curve.size) ∧ 0 ≤ k.y ∧ k.y < 256 ^ k.curve.size := by
  obtain ⟨e, he, hpoint⟩ := h
  have hp := (bounds_of_equation? he).1
  simp only [onCurve, Weierstrass.Equation.contains, Bool.and_eq_true, decide_eq_true_eq] at hpoint
  obtain ⟨⟨hx, hy⟩, ⟨hxp, hyp⟩, -⟩ := hpoint
  have hlt (n : Int) (h0 : 0 ≤ n) (hn : n.toNat < e.p) : n < 256 ^ k.curve.size := by
    rw [← Int.toNat_of_nonneg h0]
    exact_mod_cast Nat.lt_of_lt_of_le hn hp
  exact ⟨⟨hx, hlt k.x hx hxp⟩, hy, hlt k.y hy hyp⟩

/-! ## Coordinates -/

theorem coordinate_eq_ok {c : Curve} {n : Int} (h0 : 0 ≤ n) (h : n < 256 ^ c.size) :
    coordinate c n = .ok (Bytes.ofNat c.size n.toNat) := by
  rw [coordinate, Bytes.ofInt?_eq_some.mpr ⟨⟨h0, h⟩, rfl⟩]

theorem toPoint_eq_ok {k : EcKey} (h : k.PointOnCurve) :
    k.toPoint = .ok (4 :: (Bytes.ofNat k.curve.size k.x.toNat ++
      Bytes.ofNat k.curve.size k.y.toNat)) := by
  obtain ⟨⟨hx0, hx⟩, hy0, hy⟩ := h.range
  rw [toPoint, coordinate_eq_ok hx0 hx, coordinate_eq_ok hy0 hy]
  rfl

theorem ofCoordinates_eq_ok {c : Curve} {x y : Bytes} {k : EcKey}
    (h : ofCoordinates c x y = .ok k) :
    k = { curve := c, x := (Bytes.toNat x : Int), y := (Bytes.toNat y : Int) } ∧
      k.PointOnCurve := by
  unfold ofCoordinates at h
  split at h
  · cases h
  · next e he =>
    split at h
    · next hpoint =>
      rw [map_curveNamed he] at h
      cases h
      exact ⟨rfl, e, he, by simpa [onCurve] using hpoint⟩
    · cases h

theorem ofCoordinates_of_pointOnCurve {k : EcKey} {x y : Bytes} (h : k.PointOnCurve)
    (hx : k.x = Bytes.toNat x) (hy : k.y = Bytes.toNat y) :
    ofCoordinates k.curve x y = .ok k.bare := by
  obtain ⟨e, he, hpoint⟩ := h
  rw [hx, hy] at hpoint
  have hcontains : e.contains (Bytes.toNat x) (Bytes.toNat y) = true := by
    simpa [onCurve] using hpoint
  rw [ofCoordinates, he]
  dsimp only
  rw [if_pos hcontains, map_curveNamed he, bare, hx, hy]

/-! ## Reading and writing -/

/-- A point in two full coordinates is read by them. -/
theorem ofPoint_append {c : Curve} {x y : Bytes} (hc : c.family = .ec) (hx : x.length = c.size)
    (hy : y.length = c.size) : ofPoint c (4 :: (x ++ y)) = ofCoordinates c x y := by
  have hlen : (4 :: (x ++ y)).length = c.pointSize := by
    rw [pointSize_eq hc, List.length_cons, List.length_append]
    omega
  rw [ofPoint, if_neg (not_not.mpr hlen)]
  rw [List.take_left' hx, List.drop_left' hx]

/-- Zero bytes that fill a coordinate up to full width do not count. -/
theorem ofPoint_padLeft {c : Curve} {x y : Bytes} (hc : c.family = .ec) (hx : x.length ≤ c.size)
    (hy : y.length ≤ c.size) :
    ofPoint c (4 :: (Bytes.padLeft c.size x ++ Bytes.padLeft c.size y)) = ofCoordinates c x y := by
  rw [ofPoint_append hc (Bytes.length_padLeft hx) (Bytes.length_padLeft hy), ofCoordinates,
    ofCoordinates, Bytes.toNat_padLeft, Bytes.toNat_padLeft]

/-- Coordinates in full width are read as the point that they are those of. -/
theorem ofPoint_coordinates {k : EcKey} (h : k.PointOnCurve) :
    ofPoint k.curve (4 :: (Bytes.ofNat k.curve.size k.x.toNat ++
      Bytes.ofNat k.curve.size k.y.toNat)) = .ok k.bare := by
  obtain ⟨⟨hx0, hx⟩, hy0, hy⟩ := h.range
  rw [ofPoint_append h.family (Bytes.length_ofNat _ _) (Bytes.length_ofNat _ _)]
  apply ofCoordinates_of_pointOnCurve h
  · rw [Bytes.toNat_ofNat_toNat hx0 hx]
  · rw [Bytes.toNat_ofNat_toNat hy0 hy]

theorem ofPoint_toPoint {k : EcKey} (h : k.PointOnCurve) :
    ∃ bs, k.toPoint = .ok bs ∧ bs.length = k.curve.pointSize ∧
      ofPoint k.curve bs = .ok k.bare := by
  refine ⟨_, toPoint_eq_ok h, ?_, ofPoint_coordinates h⟩
  rw [pointSize_eq h.family, List.length_cons, List.length_append, Bytes.length_ofNat,
    Bytes.length_ofNat]
  omega

/-- A point that is read lies on its curve and is written as the bytes it was read from. -/
theorem toPoint_of_ofPoint {c : Curve} {bs : Bytes} {k : EcKey} (h : ofPoint c bs = .ok k) :
    k.curve = c ∧ k.bare = k ∧ k.PointOnCurve ∧ k.toPoint = .ok bs := by
  unfold ofPoint at h
  split at h
  · cases h
  · next hlen =>
    split at h
    · next xy =>
      obtain ⟨rfl, hpoint⟩ := ofCoordinates_eq_ok h
      have hc : c.family = .ec := hpoint.family
      have hxy : xy.length = 2 * c.size := by
        rw [not_not, pointSize_eq hc, List.length_cons] at hlen
        omega
      have hx : (xy.take c.size).length = c.size := by
        rw [List.length_take]
        omega
      have hy : (xy.drop c.size).length = c.size := by
        rw [List.length_drop]
        omega
      have hxb := Bytes.ofNat_toNat (xy.take c.size)
      have hyb := Bytes.ofNat_toNat (xy.drop c.size)
      rw [hx] at hxb
      rw [hy] at hyb
      refine ⟨rfl, rfl, hpoint, ?_⟩
      rw [toPoint_eq_ok hpoint]
      dsimp only
      rw [Int.toNat_natCast, Int.toNat_natCast, hxb, hyb, List.take_append_drop]
    · cases h

end WebKeys.EcKey
