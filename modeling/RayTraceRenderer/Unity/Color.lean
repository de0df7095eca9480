import RayTraceRenderer.Unity.Vector

/-! Unity's colours. Every operation acts on the alpha channel as on the others. -/

set_option autoImplicit false

namespace RayTraceRenderer.Unity

@[ext] structure Color (K : Type) where
  r : K
  g : K
  b : K
  a : K
  deriving DecidableEq, Repr

namespace Color

variable {K : Type} [Field K]

instance : Add (Color K) := ⟨fun p q => ⟨p.r + q.r, p.g + q.g, p.b + q.b, p.a + q.a⟩⟩
instance : Mul (Color K) := ⟨fun p q => ⟨p.r * q.r, p.g * q.g, p.b * q.b, p.a * q.a⟩⟩
instance : SMul K (Color K) := ⟨fun s p => ⟨s * p.r, s * p.g, s * p.b, s * p.a⟩⟩

/-- A divisor of 0 gives 0 here, and no number in the source. What is said of the value of a quotient rules
it out. -/
def div (p : Color K) (s : K) : Color K := ⟨p.r / s, p.g / s, p.b / s, p.a / s⟩

@[simp] theorem add_r (p q : Color K) : (p + q).r = p.r + q.r := rfl
@[simp] theorem add_g (p q : Color K) : (p + q).g = p.g + q.g := rfl
@[simp] theorem add_b (p q : Color K) : (p + q).b = p.b + q.b := rfl
@[simp] theorem add_a (p q : Color K) : (p + q).a = p.a + q.a := rfl
@[simp] theorem mul_r (p q : Color K) : (p * q).r = p.r * q.r := rfl
@[simp] theorem mul_g (p q : Color K) : (p * q).g = p.g * q.g := rfl
@[simp] theorem mul_b (p q : Color K) : (p * q).b = p.b * q.b := rfl
@[simp] theorem mul_a (p q : Color K) : (p * q).a = p.a * q.a := rfl
@[simp] theorem smul_r (s : K) (p : Color K) : (s • p).r = s * p.r := rfl
@[simp] theorem smul_g (s : K) (p : Color K) : (s • p).g = s * p.g := rfl
@[simp] theorem smul_b (s : K) (p : Color K) : (s • p).b = s * p.b := rfl
@[simp] theorem smul_a (s : K) (p : Color K) : (s • p).a = s * p.a := rfl
@[simp] theorem div_r (p : Color K) (s : K) : (p.div s).r = p.r / s := rfl
@[simp] theorem div_g (p : Color K) (s : K) : (p.div s).g = p.g / s := rfl
@[simp] theorem div_b (p : Color K) (s : K) : (p.div s).b = p.b / s := rfl
@[simp] theorem div_a (p : Color K) (s : K) : (p.div s).a = p.a / s := rfl

def white : Color K := ⟨1, 1, 1, 1⟩
def black : Color K := ⟨0, 0, 0, 1⟩

def grayscale (p : Color K) : K := 299 / 1000 * p.r + 587 / 1000 * p.g + 114 / 1000 * p.b

def lerpUnclamped (p q : Color K) (t : K) : Color K :=
  ⟨p.r + (q.r - p.r) * t, p.g + (q.g - p.g) * t, p.b + (q.b - p.b) * t, p.a + (q.a - p.a) * t⟩

def lerp [LinearOrder K] (p q : Color K) (t : K) : Color K := lerpUnclamped p q (Mathf.clamp01 t)

/-- From gamma space to linear space; alpha is kept. -/
def linear [Mathf K] (p : Color K) : Color K :=
  ⟨Mathf.gammaToLinearSpace p.r, Mathf.gammaToLinearSpace p.g, Mathf.gammaToLinearSpace p.b, p.a⟩

theorem add_smul_add (p q : Color K) (s t : K) : p + s • q + t • q = p + (s + t) • q := by
  ext <;> simp <;> ring

theorem white_mul (p : Color K) : white * p = p := by
  ext <;> simp [white]

theorem black_mul_grayscale (p : Color K) : (black * p).grayscale = 0 := by
  simp [black, grayscale]

theorem smul_div_cancel {s : K} (nonzero : s ≠ 0) (p : Color K) : (s • p).div s = p := by
  ext <;> simp [mul_div_cancel_left₀ _ nonzero]

theorem lerpUnclamped_self (p : Color K) (t : K) : lerpUnclamped p p t = p := by
  ext <;> simp [lerpUnclamped]

/-! ## Channels -/

/-- For laws that hold of each channel alike. -/
inductive Channel where
  | r
  | g
  | b
  | a

def channel (p : Color K) : Channel → K
  | .r => p.r
  | .g => p.g
  | .b => p.b
  | .a => p.a

def gray (value : K) : Color K := ⟨value, value, value, value⟩

omit [Field K] in
@[simp] theorem gray_channel (value : K) (c : Channel) : (gray value).channel c = value := by
  cases c <;> rfl

omit [Field K] in
theorem ext_channel {p q : Color K} (same : ∀ c, p.channel c = q.channel c) : p = q :=
  Color.ext (same .r) (same .g) (same .b) (same .a)

theorem add_gray_zero (p : Color K) : p + gray 0 = p := by
  ext <;> simp [gray]

theorem foldl_add_grayscale (colors : List (Color K)) (p : Color K) :
    (colors.foldl (· + ·) p).grayscale = p.grayscale + (colors.map grayscale).sum := by
  induction colors generalizing p with
  | nil => simp
  | cons q colors ih =>
    rw [List.foldl_cons, ih, List.map_cons, List.sum_cons, ← add_assoc]
    congr 1
    simp only [grayscale, add_r, add_g, add_b]
    ring

theorem lerpUnclamped_channel (p q : Color K) (t : K) (c : Channel) :
    (lerpUnclamped p q t).channel c = Mathf.lerpUnclamped (p.channel c) (q.channel c) t := by
  cases c <;> rfl

/-! ## Colours between black and a bound -/

section
variable [LinearOrder K]

/-- Each of red, green and blue lies between zero and a bound. Alpha is free. -/
structure Within (p : Color K) (bound : K) : Prop where
  r : 0 ≤ p.r ∧ p.r ≤ bound
  g : 0 ≤ p.g ∧ p.g ≤ bound
  b : 0 ≤ p.b ∧ p.b ≤ bound

theorem within_gray {value bound : K} (inside : 0 ≤ value ∧ value ≤ bound) : (gray value).Within bound :=
  ⟨inside, inside, inside⟩

theorem within_iff_channel {p : Color K} {bound : K} :
    p.Within bound ↔ ∀ c, c ≠ .a → 0 ≤ p.channel c ∧ p.channel c ≤ bound := by
  constructor
  · rintro ⟨r, g, b⟩ c color
    cases c with
    | r => exact r
    | g => exact g
    | b => exact b
    | a => exact absurd rfl color
  · intro channels
    exact ⟨channels .r nofun, channels .g nofun, channels .b nofun⟩

variable [IsStrictOrderedRing K] {p q : Color K} {bound bound' s t : K}

omit [IsStrictOrderedRing K] in
theorem within_black (nonneg : 0 ≤ bound) : (black : Color K).Within bound :=
  ⟨⟨le_rfl, nonneg⟩, ⟨le_rfl, nonneg⟩, ⟨le_rfl, nonneg⟩⟩

theorem within_white : (white : Color K).Within 1 :=
  ⟨⟨zero_le_one, le_rfl⟩, ⟨zero_le_one, le_rfl⟩, ⟨zero_le_one, le_rfl⟩⟩

namespace Within

omit [IsStrictOrderedRing K] in
theorem mono (inside : p.Within bound) (larger : bound ≤ bound') : p.Within bound' :=
  ⟨⟨inside.r.1, inside.r.2.trans larger⟩, ⟨inside.g.1, inside.g.2.trans larger⟩,
    ⟨inside.b.1, inside.b.2.trans larger⟩⟩

theorem add (left : p.Within bound) (right : q.Within bound') : (p + q).Within (bound + bound') :=
  ⟨⟨add_nonneg left.r.1 right.r.1, add_le_add left.r.2 right.r.2⟩,
    ⟨add_nonneg left.g.1 right.g.1, add_le_add left.g.2 right.g.2⟩,
    ⟨add_nonneg left.b.1 right.b.1, add_le_add left.b.2 right.b.2⟩⟩

theorem smul (inside : p.Within bound) (nonneg : 0 ≤ s) : (s • p).Within (s * bound) :=
  ⟨⟨mul_nonneg nonneg inside.r.1, mul_le_mul_of_nonneg_left inside.r.2 nonneg⟩,
    ⟨mul_nonneg nonneg inside.g.1, mul_le_mul_of_nonneg_left inside.g.2 nonneg⟩,
    ⟨mul_nonneg nonneg inside.b.1, mul_le_mul_of_nonneg_left inside.b.2 nonneg⟩⟩

theorem mul (left : p.Within 1) (right : q.Within bound) : (p * q).Within bound :=
  ⟨⟨mul_nonneg left.r.1 right.r.1, (mul_le_of_le_one_left right.r.1 left.r.2).trans right.r.2⟩,
    ⟨mul_nonneg left.g.1 right.g.1, (mul_le_of_le_one_left right.g.1 left.g.2).trans right.g.2⟩,
    ⟨mul_nonneg left.b.1 right.b.1, (mul_le_of_le_one_left right.b.1 left.b.2).trans right.b.2⟩⟩

-- An average of as many colours as it is divided by, or fewer.
theorem div (inside : p.Within bound) (positive : 0 < s) (enough : bound ≤ s) : (p.div s).Within 1 :=
  ⟨⟨div_nonneg inside.r.1 positive.le, (div_le_one positive).mpr (inside.r.2.trans enough)⟩,
    ⟨div_nonneg inside.g.1 positive.le, (div_le_one positive).mpr (inside.g.2.trans enough)⟩,
    ⟨div_nonneg inside.b.1 positive.le, (div_le_one positive).mpr (inside.b.2.trans enough)⟩⟩

omit [IsStrictOrderedRing K] in
-- Without light, no divisor brings any.
theorem div_zero (inside : p.Within 0) : (p.div s).Within 0 := by
  have r : p.r = 0 := le_antisymm inside.r.2 inside.r.1
  have g : p.g = 0 := le_antisymm inside.g.2 inside.g.1
  have b : p.b = 0 := le_antisymm inside.b.2 inside.b.1
  constructor <;> simp [r, g, b]

end Within

theorem within_lerp (left : p.Within 1) (right : q.Within 1) (t : K) : (lerp p q t).Within 1 := by
  obtain ⟨nonneg, le_one⟩ := Mathf.clamp01_mem t
  have combine : ∀ x y : K, 0 ≤ x ∧ x ≤ 1 → 0 ≤ y ∧ y ≤ 1 →
      0 ≤ x + (y - x) * Mathf.clamp01 t ∧ x + (y - x) * Mathf.clamp01 t ≤ 1 := by
    rintro x y ⟨x_nonneg, x_le⟩ ⟨y_nonneg, y_le⟩
    constructor
    · nlinarith
    · nlinarith
  exact ⟨combine _ _ left.r right.r, combine _ _ left.g right.g, combine _ _ left.b right.b⟩

end

end Color

end RayTraceRenderer.Unity
