import RayTraceRenderer.Managed.Render

/-! Cancelled pictures: what a picture shows where the progress bar was cancelled.

The columns are rendered one after the other with one stream of draws, and none of them touches the
ones before. So what is there when the callback cancels is there in the complete picture as well.
-/

set_option autoImplicit false

namespace RayTraceRenderer.Managed

open Unity Native Recursion Filling

variable {K σ : Type} [Field K] [LinearOrder K]

/-- The first callback never cancels, and does otherwise what the second one does. -/
def Patient (updateProgress updateProgress' : K → StateM σ Bool) : Prop :=
  ∀ progress s, (updateProgress progress).run s = (false, ((updateProgress' progress).run s).2)

namespace RenderInput

variable (input : RenderInput K)

/-- The second frame is of the target's size, and holds the first columns of the first one. -/
structure Keeps (columns : Nat) (frame frame' : Frame K) : Prop where
  width : frame'.targetTexture.width = input.width
  length : (frame'.targetTexture.colors.length : Int) = input.width * input.height
  pixels : ∀ i j : Nat, i < columns → (j : Int) < input.height →
    frame'.targetTexture.colors[input.place i j]? = frame.targetTexture.colors[input.place i j]?

variable {input} {columns : Nat} {frame frame' full : Frame K}

omit [Field K] [LinearOrder K] in
theorem Keeps.trans {more : Nat} (first : input.Keeps columns frame frame') (second : input.Keeps more frame' full)
    (le : columns ≤ more) : input.Keeps columns frame full := by
  refine ⟨second.width, second.length, ?_⟩
  intro i j left below
  rw [second.pixels i j (left.trans_le le) below, first.pixels i j left below]

section
variable [Mathf K] {linearToGammaSpace : K → K} {trace : TraceCall K → Action σ (Stop Exn) (Color K)}
  {updateProgress updateProgress' : K → StateM σ Bool}

theorem renderPixel_keeps (sized : input.Keeps columns frame frame') (fits : input.width * input.height < 2 ^ 31)
    (column : (columns : Int) < input.width) {j : Nat} (row : (j : Int) < input.height) :
    Ends (input.renderPixel linearToGammaSpace trace columns frame' j) (input.Keeps columns frame) (TraceStops trace) := by
  refine (pixelColor_ends columns j).bind fun color _ => ?_
  obtain ⟨-, stored⟩ := setColor_place sized.width sized.length fits column row color
  refine .lift_bind (mapError_eq_ok.mpr stored) (.pure ⟨sized.width, ?_, ?_⟩)
  · rw [List.length_set]
    exact sized.length
  · intro i j' left below
    have other : input.pixel (i, j') ≠ input.pixel (columns, j) := by
      intro same
      have equal := congrArg Prod.fst (pixel_injective same)
      exact left.ne equal
    have apart := place_ne column row (x := input.width - i - 1) (y := input.height - j' - 1) ⟨by omega, by omega⟩
      ⟨by omega, by omega⟩ other
    rw [show input.place i j' = ((input.height - j' - 1) * input.width + (input.width - i - 1)).toNat from rfl,
      List.getElem?_set_ne apart]
    exact sized.pixels i j' left below

theorem renderColumn_keeps (sized : input.Keeps columns frame frame') (fits : input.width * input.height < 2 ^ 31)
    (column : (columns : Int) < input.width) :
    Ends ((List.range input.height.toNat).foldlM (input.renderPixel linearToGammaSpace trace columns) frame')
      (input.Keeps columns frame) (TraceStops trace) := by
  apply Ends.foldlM (fun _ => input.Keeps columns frame) _ _ frame' sized
  intro done j rest cut frame' sized
  have row : (j : Int) < input.height := by
    have member : j ∈ List.range input.height.toNat := by
      rw [cut]
      exact List.mem_append_cons_self
    rw [List.mem_range] at member
    omega
  exact renderPixel_keeps sized fits column row

-- Later columns leave the earlier ones alone.
theorem renderColumns_keeps (fits : input.width * input.height < 2 ^ 31) (n : Nat)
    (sized : input.Keeps columns frame frame') (left : ((columns + n : Nat) : Int) = input.width) :
    Ends (input.renderColumns linearToGammaSpace trace updateProgress (List.range' columns n) frame')
      (input.Keeps columns frame) (TraceStops trace) := by
  induction n generalizing columns frame frame' with
  | zero => exact .pure sized
  | succ n ih =>
    rw [List.range'_succ]
    refine (renderColumn_keeps sized fits (by omega)).bind fun mid kept => ?_
    refine .liftState_bind fun answer => ?_
    cases answer with
    | true => exact .pure ⟨kept.width, kept.length, kept.pixels⟩
    | false =>
      have here : input.Keeps (columns + 1) mid { mid with answers := mid.answers ++ [false] } :=
        ⟨kept.width, kept.length, fun _ _ _ _ => rfl⟩
      exact (ih here (by omega)).mono fun final later => kept.trans later (Nat.le_succ columns)

/-- The share of the pixels that are done, as the callback is told it. -/
def progress (input : RenderInput K) (frame : Frame K) : K :=
  frame.curIndex / (wrap32 (input.width * input.height) : Int)

def answered (frame : Frame K) (answer : Bool) : Frame K := { frame with answers := frame.answers ++ [answer] }

theorem renderColumns_cons (i : Nat) (rest : List Nat) (frame : Frame K) (s : σ) :
    (input.renderColumns linearToGammaSpace trace updateProgress (i :: rest) frame).run s =
      match ((List.range input.height.toNat).foldlM (input.renderPixel linearToGammaSpace trace i) frame).run s with
      | .error why => .error why
      | .ok (mid, s₁) =>
        let (answer, s₂) := (updateProgress (input.progress mid)).run s₁
        if answer then .ok (answered mid true, s₂)
        else (input.renderColumns linearToGammaSpace trace updateProgress rest (answered mid false)).run s₂ := by
  rw [renderColumns, run_then]
  cases ((List.range input.height.toNat).foldlM (input.renderPixel linearToGammaSpace trace i) frame).run s with
  | error why => rfl
  | ok pair =>
    obtain ⟨mid, s₁⟩ := pair
    change ((if ((updateProgress (input.progress mid)).run s₁).1 then
        pure (answered mid ((updateProgress (input.progress mid)).run s₁).1)
      else input.renderColumns linearToGammaSpace trace updateProgress rest
        (answered mid ((updateProgress (input.progress mid)).run s₁).1) : Action σ (Stop Exn) (Frame K))).run
      ((updateProgress (input.progress mid)).run s₁).2 = _
    simp only
    obtain ⟨answer, s₂⟩ := (updateProgress (input.progress mid)).run s₁
    cases answer with
    | true => rfl
    | false => rfl

/-- Up to the column where the second callback cancels both runs are the same. -/
theorem renderColumns_cancelled (patient : Patient updateProgress updateProgress')
    (fits : input.width * input.height < 2 ^ 31) (n : Nat)
    {answers : List Bool} (size : answers.length = columns)
    (painted : input.Painted (fun _ _ _ => True) (columnMajor columns input.height.toNat) answers frame)
    (left : ((columns + n : Nat) : Int) = input.width) {s s' : σ}
    (returned : (input.renderColumns linearToGammaSpace trace updateProgress (List.range' columns n) frame).run s =
      .ok (full, s')) :
    ∃ cancelled s'', (input.renderColumns linearToGammaSpace trace updateProgress' (List.range' columns n) frame).run s =
        .ok (cancelled, s'') ∧
      cancelled.answers.length ≤ input.width ∧ input.Keeps cancelled.answers.length cancelled full := by
  induction n generalizing columns answers frame s with
  | zero =>
    have same : full = frame := congrArg Prod.fst (Except.ok.inj returned).symm
    subst same
    refine ⟨full, s, rfl, ?_, painted.width, painted.length, fun _ _ _ _ => rfl⟩
    rw [painted.answers, size]
    omega
  | succ n ih =>
    have colored : ∀ i j, Ends (input.pixelColor linearToGammaSpace trace i j) (fun _ => True) (TraceStops trace) :=
      fun i j => pixelColor_ends i j
    have column' := renderColumn_ends colored painted fits (by omega) s
    rw [List.range'_succ, renderColumns_cons] at returned ⊢
    cases column : ((List.range input.height.toNat).foldlM
        (input.renderPixel linearToGammaSpace trace columns) frame).run s with
    | error why =>
      rw [column] at returned
      cases returned
    | ok pair =>
      obtain ⟨mid, s₁⟩ := pair
      rw [column] at returned column'
      have painted : input.Painted (fun _ _ _ => True) (columnMajor (columns + 1) input.height.toNat) answers mid := column'
      simp only [patient (input.progress mid) s₁, Bool.false_eq_true, if_false] at returned
      have more : ∀ answer, (answers ++ [answer]).length = columns + 1 := by simp [size]
      simp only
      cases asked : (updateProgress' (input.progress mid)).run s₁ with
      | mk answer s₂ =>
        rw [asked] at returned
        cases answer with
        | false => exact ih (more false) (painted.answer false) (by omega) returned
        | true =>
          have sized : input.Keeps (columns + 1) (answered mid true) (answered mid false) :=
            ⟨painted.width, painted.length, fun _ _ _ _ => rfl⟩
          have keeps : Ends (input.renderColumns linearToGammaSpace trace updateProgress (List.range' (columns + 1) n)
              (answered mid false)) (input.Keeps (columns + 1) (answered mid true)) (TraceStops trace) :=
            renderColumns_keeps fits n sized (by omega)
          have kept := keeps s₂
          rw [returned] at kept
          have count : (answered mid true).answers.length = columns + 1 :=
            (congrArg List.length (painted.answer true).answers).trans (more true)
          refine ⟨answered mid true, s₂, rfl, ?_, ?_⟩
          · rw [count]
            omega
          · rw [count]
            exact kept

end

end RenderInput

section
variable [FloorRing K] [Mathf K]

/-- Where the complete picture is returned, a cancelled one is, and shows of it the columns it has been through. -/
theorem Renderer.render_cancelled (renderer : Renderer K) (random : Random K σ) (fuel : Nat) (input : RenderInput K)
    (linearToGammaSpace : K → K) {updateProgress updateProgress' : K → StateM σ Bool}
    (patient : Patient updateProgress updateProgress') (wide : 1 ≤ input.width) (high : 1 ≤ input.height)
    (fits : input.width * input.height < 2 ^ 31) {s s' : σ} {full : Frame K}
    (returned : (renderer.render random fuel input linearToGammaSpace updateProgress).run s = .ok (full, s')) :
    ∃ cancelled s'', (renderer.render random fuel input linearToGammaSpace updateProgress').run s = .ok (cancelled, s'') ∧
      cancelled.answers.length ≤ input.width ∧ ∀ i j : Nat, i < cancelled.answers.length → (j : Int) < input.height →
        full.targetTexture.colors[input.place i j]? = cancelled.targetTexture.colors[input.place i j]? := by
  unfold Renderer.render at returned ⊢
  rw [RenderInput.render_run wide high fits] at returned ⊢
  rw [patient 0 s] at returned
  obtain ⟨cancelled, s'', ended, some, kept⟩ :=
    RenderInput.renderColumns_cancelled patient fits input.width.toNat List.length_nil
      (RenderInput.blank_painted wide high) (by omega) returned
  exact ⟨cancelled, s'', ended, some, kept.pixels⟩

end

theorem render_cancelled_sky :
    letI := Mathf.atUnits
    ∃ full cancelled, (skyRenderer.render Random.lowest 1 (skyInput 3 2) id fun _ => pure false).run () = .ok (full, ()) ∧
      (skyRenderer.render Random.lowest 1 (skyInput 3 2) id fun progress => pure (decide (0 < progress))).run () =
        .ok (cancelled, ()) ∧ cancelled.answers = [true] ∧
      full.targetTexture.colors[5]? = cancelled.targetTexture.colors[5]? := by
  let := Mathf.atUnits
  have whole : ((skyRenderer.render Random.lowest 1 (skyInput 3 2) id fun _ => pure false).run ()).map
      (fun result => result.1.answers) = .ok [false, false, false] := by decide +kernel
  have part : ((skyRenderer.render Random.lowest 1 (skyInput 3 2) id fun progress =>
      pure (decide (0 < progress))).run ()).map (fun result => result.1.answers) = .ok [true] := by decide +kernel
  obtain ⟨⟨full, state⟩, returned, -⟩ := map_eq_ok.mp whole
  obtain ⟨⟨cancelled, state'⟩, returned', answers⟩ := map_eq_ok.mp part
  have patient : Patient (fun _ : Rat => (pure false : StateM Unit Bool)) fun progress => pure (decide (0 < progress)) :=
    fun _ _ => rfl
  obtain ⟨frame, s, ended, -, same⟩ := skyRenderer.render_cancelled Random.lowest 1 (skyInput 3 2) id patient
    (by decide) (by decide) (by decide) returned
  obtain ⟨rfl, -⟩ := Prod.mk.inj (Except.ok.inj (returned'.symm.trans ended))
  refine ⟨full, cancelled, returned, returned', answers, same 0 0 ?_ (by decide)⟩
  simp only at answers
  rw [answers]
  exact Nat.one_pos

end RayTraceRenderer.Managed
