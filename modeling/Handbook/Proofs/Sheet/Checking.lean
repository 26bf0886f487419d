import Handbook.Sheet.NineSlice

/-!
Checked sprites and nine-slices. Checks form sums of pixel numbers, and which sums they form depends
on what is settled before. So besides the answer that a check is asked for there is a third one,
that a sum leaves the pixel range. Where no sum does, the answer is that of the integers.
-/

namespace Handbook

theorem Fault.ok_bind {α β : Type} (answer : α) (next : α → Except Fault β) :
    (.ok answer >>= next) = next answer := rfl

/-- What goes on without a failure of the range has its first answer, and so goes on from there. -/
theorem Fault.exists_of_ne_overflow {α β : Type} {option : Option α} {next : α → Except Fault β}
    (fits : Fault.ofOption option >>= next ≠ .error .overflow) :
    ∃ middle, option = some middle ∧ next middle ≠ .error .overflow := by
  cases option with
  | none => exact absurd rfl fits
  | some middle => exact ⟨middle, rfl, fits⟩

namespace Sprite

variable {sprite outer inner : Sprite}

theorem right?_eq_none_iff :
    sprite.right? = none ↔ 2147483647 < sprite.left.val + sprite.width.val := by
  have ⟨_, _⟩ := sprite.left.inRange_val
  have wide := sprite.width_pos
  rw [right?, Px.fit?_eq_none_iff, Px.InRange]
  omega

theorem bottom?_eq_none_iff :
    sprite.bottom? = none ↔ 2147483647 < sprite.top.val + sprite.height.val := by
  have ⟨_, _⟩ := sprite.top.inRange_val
  have high := sprite.height_pos
  rw [bottom?, Px.fit?_eq_none_iff, Px.InRange]
  omega

theorem far_isSome_iff : sprite.right?.isSome ∧ sprite.bottom?.isSome ↔
    ¬ (sprite.right? = none ∨ sprite.bottom? = none) := by
  simp [Option.isSome_iff_ne_none]

end Sprite

namespace SheetSize

variable {size : SheetSize} {sprite : Sprite}

/-- Comparing the sprite with the sheet asks for a far edge that is no pixel number. The bottom is
asked for only when the right edge is on the sheet, and neither when a near edge is not. -/
def HoldingOverflows (size : SheetSize) (sprite : Sprite) : Prop :=
  (0 ≤ sprite.left.val ∧ 0 ≤ sprite.top.val) ∧
    (sprite.right? = none ∨
      sprite.left.val + sprite.width.val ≤ size.width.toNat ∧ sprite.bottom? = none)

instance (size : SheetSize) (sprite : Sprite) : Decidable (size.HoldingOverflows sprite) :=
  inferInstanceAs (Decidable ((_ ∧ _) ∧ (_ ∨ _ ∧ _)))

private theorem holds?_eq (size : SheetSize) (sprite : Sprite) : size.holds? sprite =
    if size.HoldingOverflows sprite then none else some (decide (size.Holds sprite)) := by
  unfold holds?
  split
  · next notNear =>
    simp only [Bool.or_eq_true, decide_eq_true_eq] at notNear
    have fits : ¬ size.HoldingOverflows sprite := by
      rintro ⟨near, -⟩
      omega
    rw [if_neg fits]
    exact congrArg some (decide_eq_false fun holds => by unfold Holds at holds; omega).symm
  · next near =>
    simp only [Bool.or_eq_true, decide_eq_true_eq, not_or, Int.not_lt] at near
    cases isRight : sprite.right? with
    | none => exact (if_pos ⟨near, .inl isRight⟩).symm
    | some right =>
      have across := Px.fit?_eq_some_iff.mp isRight
      simp only [Option.bind_eq_bind, Option.bind_some, across]
      split
      · next beyond =>
        have fits : ¬ size.HoldingOverflows sprite := by
          rintro ⟨-, past | ⟨onSheet, -⟩⟩
          · cases isRight.symm.trans past
          · omega
        rw [if_neg fits]
        exact congrArg some (decide_eq_false fun holds => by unfold Holds at holds; omega).symm
      · next onSheet =>
        rw [Int.not_lt] at onSheet
        cases isBottom : sprite.bottom? with
        | none => exact (if_pos ⟨near, .inr ⟨onSheet, isBottom⟩⟩).symm
        | some bottom =>
          have down := Px.fit?_eq_some_iff.mp isBottom
          have fits : ¬ size.HoldingOverflows sprite := by
            simp [HoldingOverflows, isRight, isBottom]
          rw [if_neg fits]
          refine congrArg some (decide_eq_decide.mpr ?_)
          unfold Holds
          omega

private theorem check_eq (size : SheetSize) (sprite : Sprite) : size.check sprite =
    if size.HoldingOverflows sprite then .error .overflow
    else if size.Holds sprite then .ok ()
    else .error (.outsideSheet sprite size) := by
  unfold check
  rw [holds?_eq]
  split
  · rfl
  · by_cases holds : size.Holds sprite
    · rw [decide_eq_true holds, if_pos holds]
      rfl
    · rw [decide_eq_false holds, if_neg holds]
      rfl

end SheetSize

namespace Sprite

variable {outer inner : Sprite}

/-- Comparing the inner sprite with the outer one asks for a far edge that is no pixel number. The
bottoms are asked for only when the right edges are in order, and neither when near edges are
not. -/
def EnclosingOverflows (outer inner : Sprite) : Prop :=
  (outer.left.val < inner.left.val ∧ outer.top.val < inner.top.val) ∧
    (outer.right? = none ∨ inner.right? = none ∨
      inner.left.val + inner.width.val < outer.left.val + outer.width.val ∧
        (inner.bottom? = none ∨ outer.bottom? = none))

instance (outer inner : Sprite) : Decidable (outer.EnclosingOverflows inner) :=
  inferInstanceAs (Decidable ((_ ∧ _) ∧ (_ ∨ _ ∨ _ ∧ (_ ∨ _))))

private theorem encloses?_eq (outer inner : Sprite) : outer.encloses? inner =
    if outer.EnclosingOverflows inner then none else some (decide (inner.Inside outer)) := by
  unfold encloses?
  split
  · next notNear =>
    simp only [Bool.or_eq_true, decide_eq_true_eq] at notNear
    have fits : ¬ outer.EnclosingOverflows inner := by
      rintro ⟨near, -⟩
      omega
    rw [if_neg fits]
    exact congrArg some (decide_eq_false fun inside => by unfold Inside at inside; omega).symm
  · next near =>
    simp only [Bool.or_eq_true, decide_eq_true_eq, not_or, Int.not_le] at near
    cases isRight : outer.right? with
    | none => exact (if_pos ⟨near, .inl isRight⟩).symm
    | some right =>
      cases isInnerRight : inner.right? with
      | none => exact (if_pos ⟨near, .inr (.inl isInnerRight)⟩).symm
      | some innerRight =>
        have across := Px.fit?_eq_some_iff.mp isRight
        have innerAcross := Px.fit?_eq_some_iff.mp isInnerRight
        simp only [Option.bind_eq_bind, Option.bind_some, across, innerAcross]
        split
        · next beyond =>
          have fits : ¬ outer.EnclosingOverflows inner := by
            rintro ⟨-, past | past | ⟨before, -⟩⟩
            · cases isRight.symm.trans past
            · cases isInnerRight.symm.trans past
            · omega
          rw [if_neg fits]
          exact congrArg some (decide_eq_false fun inside => by unfold Inside at inside; omega).symm
        · next before =>
          rw [Int.not_le] at before
          cases isInnerBottom : inner.bottom? with
          | none => exact (if_pos ⟨near, .inr (.inr ⟨before, .inl isInnerBottom⟩)⟩).symm
          | some innerBottom =>
            cases isBottom : outer.bottom? with
            | none => exact (if_pos ⟨near, .inr (.inr ⟨before, .inr isBottom⟩)⟩).symm
            | some bottom =>
              have down := Px.fit?_eq_some_iff.mp isBottom
              have innerDown := Px.fit?_eq_some_iff.mp isInnerBottom
              have fits : ¬ outer.EnclosingOverflows inner := by
                simp [EnclosingOverflows, isRight, isInnerRight, isInnerBottom, isBottom]
              rw [if_neg fits]
              refine congrArg some (decide_eq_decide.mpr ?_)
              unfold Inside
              omega

theorem encloses?_eq_none_iff :
    outer.encloses? inner = none ↔ outer.EnclosingOverflows inner := by
  rw [encloses?_eq]
  split <;> simp_all

theorem encloses?_eq_some_iff {answer : Bool} : outer.encloses? inner = some answer ↔
    ¬ outer.EnclosingOverflows inner ∧ decide (inner.Inside outer) = answer := by
  rw [encloses?_eq]
  split <;> simp_all

/-- The far edges of a sprite inside another one are pixel numbers if those of the other one are. -/
theorem enclosingOverflows_iff_of_inside (inside : inner.Inside outer) :
    outer.EnclosingOverflows inner ↔ outer.right? = none ∨ outer.bottom? = none := by
  unfold Inside at inside
  unfold EnclosingOverflows
  rw [right?_eq_none_iff, right?_eq_none_iff, bottom?_eq_none_iff, bottom?_eq_none_iff]
  omega

/-- Whether a sprite lies strictly inside another one is answered with yes where it does and the far
edges of the other one are in the range. -/
theorem encloses?_eq_true_iff : outer.encloses? inner = some true ↔
    inner.Inside outer ∧ outer.right?.isSome ∧ outer.bottom?.isSome := by
  rw [encloses?_eq_some_iff, decide_eq_true_iff, and_comm, far_isSome_iff]
  exact and_congr_right fun inside => not_congr (enclosingOverflows_iff_of_inside inside)

theorem of_eq (left top width height : Px) : Sprite.of left top width height =
    if positive : 0 < width.val ∧ 0 < height.val then
      .ok ⟨left, top, width, height, positive.1, positive.2⟩
    else .error (.emptySprite width height) := by
  unfold Sprite.of
  by_cases positive : 0 < width.val ∧ 0 < height.val
  · rw [ofSize?, dif_pos positive, dif_pos positive]
  · rw [ofSize?, dif_neg positive, dif_neg positive]

theorem of_eq_ok_iff {left top width height : Px} {sprite : Sprite} :
    Sprite.of left top width height = .ok sprite ↔
      sprite.left = left ∧ sprite.top = top ∧ sprite.width = width ∧ sprite.height = height := by
  rw [← ofSize?_eq_some_iff]
  unfold Sprite.of
  split <;> simp_all

end Sprite

namespace NineSlice

variable {slice : NineSlice} {outer inner : Sprite} {thickness : Px}

theorem of_eq (outer inner : Sprite) : of outer inner =
    if outer.EnclosingOverflows inner then .error .overflow
    else if inside : inner.Inside outer then .ok ⟨outer, inner, inside⟩
    else .error .looseNineSlice := by
  unfold of
  split
  · next unknown => rw [if_pos (Sprite.encloses?_eq_none_iff.mp unknown)]
  · next known =>
    obtain ⟨fits, loose⟩ := Sprite.encloses?_eq_some_iff.mp known
    rw [if_neg fits, dif_neg (of_decide_eq_false loose)]
  · next known =>
    obtain ⟨fits, inside⟩ := Sprite.encloses?_eq_some_iff.mp known
    rw [if_neg fits, dif_pos (of_decide_eq_true inside)]

theorem of_eq_ok_iff : of outer inner = .ok slice ↔
    slice.outer = outer ∧ slice.inner = inner ∧ outer.encloses? inner = some true := by
  unfold of
  constructor
  · intro formed
    split at formed
    · cases formed
    · cases formed
    · next known =>
      cases formed
      exact ⟨rfl, rfl, known⟩
  · rintro ⟨rfl, rfl, encloses⟩
    split
    · next unknown => cases unknown.symm.trans encloses
    · next known => cases known.symm.trans encloses
    · rfl

theorem uniform_eq_ok_iff : uniform outer thickness = .ok slice ↔ slice.outer = outer ∧
    slice.inner.left.val = outer.left.val + thickness.val ∧
    slice.inner.top.val = outer.top.val + thickness.val ∧
    slice.inner.width.val = outer.width.val - 2 * thickness.val ∧
    slice.inner.height.val = outer.height.val - 2 * thickness.val ∧
    outer.encloses? slice.inner = some true := by
  simp only [uniform, Fault.bind_eq_ok_iff, Fault.ofOption_eq_ok_iff, Px.fit?_eq_some_iff,
    Sprite.of_eq_ok_iff, of_eq_ok_iff]
  constructor
  · rintro ⟨left, isLeft, top, isTop, both, isBoth, width, isWidth, height, isHeight, inner,
      ⟨rfl, rfl, rfl, rfl⟩, isOuter, rfl, encloses⟩
    exact ⟨isOuter, isLeft, isTop, by omega, by omega, encloses⟩
  · rintro ⟨rfl, left, top, width, height, encloses⟩
    have ⟨_, _⟩ := slice.outer.width.inRange_val
    have ⟨_, _⟩ := slice.inner.width.inRange_val
    have innerWide := slice.inner.width_pos
    have outerWide := slice.outer.width_pos
    obtain ⟨both, -, isBoth⟩ := Px.exists_fit? (2 * thickness.val) ⟨by omega, by omega⟩
    exact ⟨slice.inner.left, left, slice.inner.top, top, both, isBoth, slice.inner.width, by omega,
      slice.inner.height, by omega, slice.inner, ⟨rfl, rfl, rfl, rfl⟩, rfl, rfl, encloses⟩

/-- The sums from which the middle of a border of one thickness is formed are pixel numbers. -/
structure BorderSums (outer : Sprite) (thickness : Px) : Prop where
  left : Px.InRange (outer.left.val + thickness.val)
  top : Px.InRange (outer.top.val + thickness.val)
  both : Px.InRange (2 * thickness.val)
  width : Px.InRange (outer.width.val - 2 * thickness.val)
  height : Px.InRange (outer.height.val - 2 * thickness.val)

/-- Forming a border of one thickness leaves the range: in the sums for its middle or, when the
border leaves something of both sides, at a far edge of the sprite. -/
def BorderOverflows (outer : Sprite) (thickness : Px) : Prop :=
  ¬ BorderSums outer thickness ∨
    (1 ≤ thickness.val ∧ 2 * thickness.val < outer.width.val ∧
      2 * thickness.val < outer.height.val) ∧ (outer.right? = none ∨ outer.bottom? = none)

private theorem borderSums_of_ne_overflow (fits : uniform outer thickness ≠ .error .overflow) :
    BorderSums outer thickness := by
  obtain ⟨left, isLeft, fits⟩ := Fault.exists_of_ne_overflow fits
  obtain ⟨top, isTop, fits⟩ := Fault.exists_of_ne_overflow fits
  obtain ⟨both, isBoth, fits⟩ := Fault.exists_of_ne_overflow fits
  obtain ⟨width, isWidth, fits⟩ := Fault.exists_of_ne_overflow fits
  obtain ⟨height, isHeight, fits⟩ := Fault.exists_of_ne_overflow fits
  rw [Px.fit?_eq_some_iff] at isLeft isTop isBoth isWidth isHeight
  rw [isBoth] at isWidth isHeight
  exact ⟨isLeft ▸ left.inRange_val, isTop ▸ top.inRange_val, isBoth ▸ both.inRange_val,
    isWidth ▸ width.inRange_val, isHeight ▸ height.inRange_val⟩

/-- The middle that a border of this thickness leaves of the outer sprite. -/
structure IsMiddle (outer : Sprite) (thickness : Px) (middle : Sprite) : Prop where
  left : middle.left.val = outer.left.val + thickness.val
  top : middle.top.val = outer.top.val + thickness.val
  width : middle.width.val = outer.width.val - 2 * thickness.val
  height : middle.height.val = outer.height.val - 2 * thickness.val

theorem IsMiddle.inside_iff {middle : Sprite} (isMiddle : IsMiddle outer thickness middle) :
    middle.Inside outer ↔ 1 ≤ thickness.val := by
  obtain ⟨left, top, width, height⟩ := isMiddle
  unfold Sprite.Inside
  omega

/-- With its sums on the range, a border either leaves nothing of a side or has a middle, with which
the nine-slice is formed. -/
theorem uniform_of_borderSums (sums : BorderSums outer thickness) :
    (∃ width height : Px, width.val = outer.width.val - 2 * thickness.val ∧
      height.val = outer.height.val - 2 * thickness.val ∧ (width.val ≤ 0 ∨ height.val ≤ 0) ∧
      uniform outer thickness = .error (.emptySprite width height)) ∨
    ∃ middle, IsMiddle outer thickness middle ∧ uniform outer thickness = of outer middle := by
  obtain ⟨left, formedLeft, isLeft⟩ := Px.exists_fit? _ sums.left
  obtain ⟨top, formedTop, isTop⟩ := Px.exists_fit? _ sums.top
  obtain ⟨both, formedBoth, isBoth⟩ := Px.exists_fit? _ sums.both
  obtain ⟨width, formedWidth, isWidth⟩ := Px.exists_fit? _ sums.width
  obtain ⟨height, formedHeight, isHeight⟩ := Px.exists_fit? _ sums.height
  have answer : uniform outer thickness = Sprite.of left top width height >>= of outer := by
    unfold uniform
    simp only [formedLeft, formedTop, formedBoth, Fault.ofOption, Fault.ok_bind, isBoth,
      formedWidth, formedHeight]
  rw [answer, Sprite.of_eq]
  split
  · next positive => exact .inr ⟨_, ⟨isLeft, isTop, isWidth, isHeight⟩, rfl⟩
  · next empty => exact .inl ⟨width, height, isWidth, isHeight, by omega, rfl⟩

theorem borderOverflows_iff_of_borderSums (sums : BorderSums outer thickness) :
    BorderOverflows outer thickness ↔
      (1 ≤ thickness.val ∧ 2 * thickness.val < outer.width.val ∧
        2 * thickness.val < outer.height.val) ∧ (outer.right? = none ∨ outer.bottom? = none) :=
  or_iff_right (not_not_intro sums)

/-- A border of one thickness has one of four answers: a sum leaves the range, the border leaves
nothing of a side, it has no thickness, or it is formed. -/
theorem uniform_cases (outer : Sprite) (thickness : Px) :
    (BorderOverflows outer thickness ∧ uniform outer thickness = .error .overflow) ∨
      ¬ BorderOverflows outer thickness ∧
        ((outer.width.val ≤ 2 * thickness.val ∨ outer.height.val ≤ 2 * thickness.val) ∧
          (∃ width height : Px, width.val = outer.width.val - 2 * thickness.val ∧
            height.val = outer.height.val - 2 * thickness.val ∧
            uniform outer thickness = .error (.emptySprite width height)) ∨
        thickness.val ≤ 0 ∧ uniform outer thickness = .error .looseNineSlice ∨
        (1 ≤ thickness.val ∧ 2 * thickness.val < outer.width.val ∧
          2 * thickness.val < outer.height.val) ∧
          ∃ slice, uniform outer thickness = .ok slice) := by
  by_cases sums : BorderSums outer thickness
  · rw [borderOverflows_iff_of_borderSums sums]
    rcases uniform_of_borderSums sums with
      ⟨width, height, isWidth, isHeight, empty, answer⟩ | ⟨middle, isMiddle, answer⟩
    · exact .inr ⟨by omega, .inl ⟨by omega, width, height, isWidth, isHeight, answer⟩⟩
    · have wide := isMiddle.width ▸ middle.width_pos
      have high := isMiddle.height ▸ middle.height_pos
      rw [answer, of_eq]
      by_cases thick : 1 ≤ thickness.val
      · have inside := isMiddle.inside_iff.mpr thick
        have room : 1 ≤ thickness.val ∧ 2 * thickness.val < outer.width.val ∧
            2 * thickness.val < outer.height.val := ⟨thick, by omega, by omega⟩
        have farIff := Sprite.enclosingOverflows_iff_of_inside inside
        rw [dif_pos inside]
        split
        · next past => exact .inl ⟨⟨room, farIff.mp past⟩, rfl⟩
        · next fits =>
          exact .inr ⟨fun past => fits (farIff.mpr past.2), .inr (.inr ⟨room, _, rfl⟩)⟩
      · have near : ¬ outer.EnclosingOverflows middle := by
          rintro ⟨⟨right, -⟩, -⟩
          have := isMiddle.left
          omega
        rw [if_neg near, dif_neg (mt isMiddle.inside_iff.mp thick)]
        exact .inr ⟨fun past => thick past.1.1, .inr (.inl ⟨by omega, rfl⟩)⟩
  · exact .inl ⟨.inl sums,
      Classical.byContradiction fun fits => sums (borderSums_of_ne_overflow fits)⟩

/-- Where a border leaves something of both sides, its sums lie between the edges of the sprite. -/
theorem borderOverflows_iff_of_room (thick : 1 ≤ thickness.val)
    (across : 2 * thickness.val < outer.width.val) (down : 2 * thickness.val < outer.height.val) :
    BorderOverflows outer thickness ↔ outer.right? = none ∨ outer.bottom? = none := by
  refine ⟨fun past => ?_, fun far => .inr ⟨⟨thick, across, down⟩, far⟩⟩
  rcases past with unfit | ⟨-, far⟩
  · rw [Sprite.right?_eq_none_iff, Sprite.bottom?_eq_none_iff]
    have ⟨_, _⟩ := outer.left.inRange_val
    have ⟨_, _⟩ := outer.top.inRange_val
    have ⟨_, _⟩ := outer.width.inRange_val
    have ⟨_, _⟩ := outer.height.inRange_val
    refine Classical.byContradiction fun fits => unfit ?_
    constructor <;> unfold Px.InRange <;> omega
  · exact far

theorem uniform_eq_overflow_iff :
    uniform outer thickness = .error .overflow ↔ BorderOverflows outer thickness := by
  rcases uniform_cases outer thickness with
    ⟨past, answer⟩ | ⟨fits, ⟨-, _, _, -, -, answer⟩ | ⟨-, answer⟩ | ⟨-, _, answer⟩⟩
  · exact iff_of_true answer past
  all_goals exact iff_of_false (by simp [answer]) fits

theorem exists_uniform_iff_fits : (∃ slice, uniform outer thickness = .ok slice) ↔
    ¬ BorderOverflows outer thickness ∧ 1 ≤ thickness.val ∧
      2 * thickness.val < outer.width.val ∧ 2 * thickness.val < outer.height.val := by
  rcases uniform_cases outer thickness with
    ⟨past, answer⟩ | ⟨fits, ⟨empty, width, height, -, -, answer⟩ | ⟨thin, answer⟩ | ⟨room, formed⟩⟩
  · simp [past, answer]
  · simp only [answer, reduceCtorEq, exists_false, false_iff]
    omega
  · simp only [answer, reduceCtorEq, exists_false, false_iff]
    omega
  · exact ⟨fun _ => ⟨fits, room⟩, fun _ => formed⟩

theorem uniform_eq_loose_iff : uniform outer thickness = .error .looseNineSlice ↔
    ¬ BorderOverflows outer thickness ∧ thickness.val ≤ 0 := by
  have wide := outer.width_pos
  have high := outer.height_pos
  rcases uniform_cases outer thickness with
    ⟨past, answer⟩ | ⟨fits, ⟨empty, _, _, -, -, answer⟩ | ⟨thin, answer⟩ | ⟨room, _, answer⟩⟩
  · exact iff_of_false (by simp [answer]) fun loose => loose.1 past
  · exact iff_of_false (by simp [answer]) (by omega)
  · exact iff_of_true answer ⟨fits, thin⟩
  · exact iff_of_false (by simp [answer]) (by omega)

/-- What a border leaves of the two sides is told when it leaves nothing of one of them. -/
theorem exists_uniform_eq_empty_iff :
    (∃ across down : Px, across.val = outer.width.val - 2 * thickness.val ∧
        down.val = outer.height.val - 2 * thickness.val ∧
        uniform outer thickness = .error (.emptySprite across down)) ↔
      ¬ BorderOverflows outer thickness ∧
        (outer.width.val ≤ 2 * thickness.val ∨ outer.height.val ≤ 2 * thickness.val) := by
  have wide := outer.width_pos
  have high := outer.height_pos
  rcases uniform_cases outer thickness with
    ⟨past, answer⟩ | ⟨fits, ⟨empty, told⟩ | ⟨thin, answer⟩ | ⟨room, _, answer⟩⟩
  · exact iff_of_false (by simp [answer]) fun nothing => nothing.1 past
  · exact iff_of_true told ⟨fits, empty⟩
  · exact iff_of_false (by simp [answer]) (by omega)
  · exact iff_of_false (by simp [answer]) (by omega)

/-- A border of one thickness fits where it leaves something of both sides. -/
theorem exists_uniform_iff : (∃ slice, uniform outer thickness = .ok slice) ↔
    outer.right?.isSome ∧ outer.bottom?.isSome ∧ 1 ≤ thickness.val ∧
      2 * thickness.val < outer.width.val ∧ 2 * thickness.val < outer.height.val := by
  rw [exists_uniform_iff_fits]
  constructor
  · rintro ⟨fits, thick, across, down⟩
    rw [borderOverflows_iff_of_room thick across down, ← Sprite.far_isSome_iff] at fits
    exact ⟨fits.1, fits.2, thick, across, down⟩
  · rintro ⟨right, bottom, thick, across, down⟩
    rw [borderOverflows_iff_of_room thick across down, ← Sprite.far_isSome_iff]
    exact ⟨⟨right, bottom⟩, thick, across, down⟩

/-- Every check answers as the integers do, or a sum that it asks for leaves the range. A sprite is
refused for an empty side, a sprite on a sheet for pixels beside the sheet, and the middle of a
nine-slice for touching an edge. A border of one thickness is refused when it leaves nothing of a
side, and else when it has no thickness. -/
theorem checks_answer_or_overflow (size : SheetSize) (outer inner : Sprite)
    (left top width height thickness : Px) :
    (Sprite.of left top width height =
      if positive : 0 < width.val ∧ 0 < height.val then
        .ok ⟨left, top, width, height, positive.1, positive.2⟩
      else .error (.emptySprite width height)) ∧
    (size.check outer =
      if size.HoldingOverflows outer then .error .overflow
      else if size.Holds outer then .ok ()
      else .error (.outsideSheet outer size)) ∧
    (of outer inner =
      if outer.EnclosingOverflows inner then .error .overflow
      else if inside : inner.Inside outer then .ok ⟨outer, inner, inside⟩
      else .error .looseNineSlice) ∧
    (uniform outer thickness = .error .overflow ↔ BorderOverflows outer thickness) ∧
    ((∃ slice, uniform outer thickness = .ok slice) ↔
      ¬ BorderOverflows outer thickness ∧ 1 ≤ thickness.val ∧
        2 * thickness.val < outer.width.val ∧ 2 * thickness.val < outer.height.val) ∧
    (uniform outer thickness = .error .looseNineSlice ↔
      ¬ BorderOverflows outer thickness ∧ thickness.val ≤ 0) ∧
    ((∃ across down : Px, across.val = outer.width.val - 2 * thickness.val ∧
        down.val = outer.height.val - 2 * thickness.val ∧
        uniform outer thickness = .error (.emptySprite across down)) ↔
      ¬ BorderOverflows outer thickness ∧
        (outer.width.val ≤ 2 * thickness.val ∨ outer.height.val ≤ 2 * thickness.val)) :=
  ⟨Sprite.of_eq left top width height, size.check_eq outer, of_eq outer inner,
    uniform_eq_overflow_iff, exists_uniform_iff_fits, uniform_eq_loose_iff,
    exists_uniform_eq_empty_iff⟩

/-- Checks that leave the range. A sprite starts at the last column, beside a sheet of 256 columns
and on one of 4294967295. The middle of a nine-slice reaches past the last column, and so past the
edge of the sprite around it. A border of 100 pixels, which is more than there is, would begin past
the last column; one of 2147483647 pixels cannot be doubled. -/
theorem checks_past_last_column :
    SheetSize.check ⟨256, 256⟩ ⟨2147483647, 0, 1, 1, by decide, by decide⟩ = .error .overflow ∧
      ¬ SheetSize.Holds ⟨256, 256⟩ ⟨2147483647, 0, 1, 1, by decide, by decide⟩ ∧
      SheetSize.check ⟨4294967295, 256⟩ ⟨2147483647, 0, 1, 1, by decide, by decide⟩ =
        .error .overflow ∧
      SheetSize.Holds ⟨4294967295, 256⟩ ⟨2147483647, 0, 1, 1, by decide, by decide⟩ ∧
      of ⟨0, 0, 16, 16, by decide, by decide⟩ ⟨2147483640, 1, 16, 2, by decide, by decide⟩ =
        .error .overflow ∧
      ¬ Sprite.Inside ⟨2147483640, 1, 16, 2, by decide, by decide⟩
        ⟨0, 0, 16, 16, by decide, by decide⟩ ∧
      uniform ⟨2147483630, 0, 16, 16, by decide, by decide⟩ 100 = .error .overflow ∧
      uniform ⟨0, 64, 16, 16, by decide, by decide⟩ 2147483647 = .error .overflow :=
  ⟨rfl, by decide, rfl, by decide, rfl, by decide, rfl, rfl⟩

end NineSlice

end Handbook
