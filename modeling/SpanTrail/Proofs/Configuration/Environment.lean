import SpanTrail.Configuration
import SpanTrail.Proofs.Number
import SpanTrail.Proofs.Sampler.Rate
import SpanTrail.Proofs.Text

/-! Configurations from environments.  Every setting is either unset, and then the standard
one is kept, or well formed, and then it is taken; whatever else is found is an error, never
a reason to fall back.  The argument of the sampler counts for two samplers alone. -/

namespace SpanTrail

namespace Configuration

def word (wide : Bool) : String :=
  if wide then "true" else "false"

def Spells (text : String) (wide : Bool) : Prop :=
  Text.InAnyCase (word wide).toList text.toList

theorem boolean?_eq_some_iff {text : String} {wide : Bool} :
    boolean? text = some wide ↔ Spells text wide := by
  have letters : (word wide).toList.all (fun letter => 97 ≤ letter.toNat ∧ letter.toNat ≤ 122) =
      true := by
    cases wide <;> decide
  have small : ∀ letter ∈ (word wide).toList, 97 ≤ letter.toNat ∧ letter.toNat ≤ 122 :=
    fun letter member => of_decide_eq_true (List.all_eq_true.mp letters letter member)
  unfold Spells
  rw [← Text.map_toLower_eq_iff small, ← String.toList_ofList (l := text.toList.map Char.toLower),
    String.toList_inj]
  unfold boolean?
  dsimp only
  generalize String.ofList (text.toList.map Char.toLower) = lower
  by_cases isTrue : lower = "true"
  · subst isTrue
    cases wide <;> decide
  · by_cases isFalse : lower = "false"
    · subst isFalse
      cases wide <;> decide
    · rw [if_neg isTrue, if_neg isFalse]
      refine iff_of_false nofun ?_
      cases wide
      · exact isFalse
      · exact isTrue

theorem boolean?_eq_none_iff {text : String} :
    boolean? text = none ↔ ¬∃ wide, Spells text wide := by
  rw [Option.eq_none_iff_forall_ne_some, not_exists]
  exact forall_congr' fun wide => not_congr boolean?_eq_some_iff

variable {environment : Environment}

inductive ReadsWidth (environment : Environment) : Except TracingError Bool → Prop where
  | unset (unset : environment .wideTraceIds = none) : ReadsWidth environment (.ok false)
  | spelled {text : String} {wide : Bool} (set : environment .wideTraceIds = some text)
      (spelled : Spells text wide) : ReadsWidth environment (.ok wide)
  | malformed {text : String} (set : environment .wideTraceIds = some text)
      (unspelled : ¬∃ wide, Spells text wide) :
      ReadsWidth environment (.error (.invalidArgument (.notBoolean text)))

theorem wideOf_eq_iff {result : Except TracingError Bool} :
    wideOf environment false = result ↔ ReadsWidth environment result := by
  constructor
  · rintro rfl
    unfold wideOf
    cases set : environment .wideTraceIds with
    | none => exact .unset set
    | some text =>
        dsimp only
        cases value : boolean? text with
        | none => exact .malformed set (boolean?_eq_none_iff.mp value)
        | some wide => exact .spelled set (boolean?_eq_some_iff.mp value)
  · intro reads
    unfold wideOf
    cases reads with
    | unset unset => rw [unset]
    | spelled set spelled =>
        rw [set]
        dsimp only
        rw [boolean?_eq_some_iff.mpr spelled]
    | malformed set unspelled =>
        rw [set]
        dsimp only
        rw [boolean?_eq_none_iff.mpr unspelled]

/-! ### The sampler and its argument -/

inductive ReadsArgument (environment : Environment) : Except TracingError Binary → Prop where
  | missing (unset : environment .samplerArgument = none) :
      ReadsArgument environment (.error (.invalidArgument .samplerArgumentMissing))
  | number {text : String} {number : Binary} (set : environment .samplerArgument = some text)
      (isRead : Numeral.readSingle? (Blank.trim text) = some number) :
      ReadsArgument environment (.ok number)
  | malformed {text : String} (set : environment .samplerArgument = some text)
      (unread : Numeral.readSingle? (Blank.trim text) = none) :
      ReadsArgument environment (.error (.invalidArgument (.samplerArgumentNotNumeric text)))

theorem samplerArgument_eq_iff {result : Except TracingError Binary} :
    samplerArgument environment = result ↔ ReadsArgument environment result := by
  constructor
  · rintro rfl
    unfold samplerArgument
    cases set : environment .samplerArgument with
    | none => exact .missing set
    | some text =>
        dsimp only
        cases value : Numeral.readSingle? (Blank.trim text) with
        | none => exact .malformed set value
        | some number => exact .number set value
  · intro reads
    unfold samplerArgument
    cases reads with
    | missing unset => rw [unset]
    | number set isRead =>
        rw [set]
        dsimp only
        rw [isRead]
    | malformed set unread =>
        rw [set]
        dsimp only
        rw [unread]

inductive CountsAt (draw : Nat → Nat) (rate : Binary) : Except TracingError Sampler → Prop where
  | none (value : rate.value? = some (.of 0)) : CountsAt draw rate (.ok .never)
  | all (value : rate.value? = some (.of 1)) : CountsAt draw rate (.ok .always)
  | share {rational : ℚ} (value : rate.value? = some (.of rational))
      (least : Binary.leastShare ≤ rational) (below : rational < 1) :
      CountsAt draw rate (.ok (.counting (.ofCount (WindowSampler.slotCount rate) draw)))
  | refused (outside : ¬rate.IsShare) :
      CountsAt draw rate (.error (.invalidArgument (.rateOutOfRange rate)))

theorem ofRate_eq_iff {draw : Nat → Nat} {rate : Binary} {result : Except TracingError Sampler} :
    Sampler.ofRate rate draw = result ↔ CountsAt draw rate result := by
  have zero := @Binary.same_rational_iff rate _ _ Binary.value?_zero
  have one := @Binary.same_rational_iff rate _ _ Binary.value?_one
  constructor
  · rintro rfl
    cases made : Sampler.ofRate rate draw with
    | error cause =>
        obtain ⟨outside, rfl⟩ := Sampler.ofRate_error_iff.mp made
        exact .refused outside
    | ok sampler =>
        unfold Sampler.ofRate at made
        split at made
        · next isZero =>
            cases made
            exact .none (zero.mp isZero)
        · split at made
          · next isOne =>
              cases made
              exact .all (one.mp isOne)
          · unfold WindowSampler.ofRate at made
            split at made
            · next isRate =>
                cases made
                obtain ⟨rational, value, least, below⟩ := WindowSampler.isRate_iff.mp isRate
                exact .share value least below
            · cases made
  · rintro (value | value | ⟨value, least, below⟩ | outside)
    · unfold Sampler.ofRate
      rw [if_pos (zero.mpr value)]
    · unfold Sampler.ofRate
      rw [if_neg, if_pos (one.mpr value)]
      rw [zero, value, Option.some.injEq, Extended.of_inj]
      exact one_ne_zero
    · have positive : (0 : ℚ) < Binary.leastShare := by
        unfold Binary.leastShare
        norm_num
      unfold Sampler.ofRate WindowSampler.ofRate
      rw [if_neg, if_neg, if_pos (WindowSampler.isRate_iff.mpr ⟨_, value, least, below⟩)]
      · rfl
      · rw [one, value, Option.some.injEq, Extended.of_inj]
        exact below.ne
      · rw [zero, value, Option.some.injEq, Extended.of_inj]
        exact (positive.trans_le least).ne'
    · exact Sampler.ofRate_error_iff.mpr ⟨outside, rfl⟩

def IsRatio (ratio : Binary) : Prop :=
  ∃ rational : ℚ, ratio.value? = some (.of rational) ∧ 0 ≤ rational ∧ rational ≤ 1

theorem isRatio_iff {ratio : Binary} :
    IsRatio ratio ↔ (Binary.zero.le ratio && ratio.le .one) = true := by
  rw [Bool.and_eq_true, Binary.le_iff, Binary.le_iff, Binary.value?_zero, Binary.value?_one]
  constructor
  · rintro ⟨rational, value, least, most⟩
    exact ⟨⟨_, rfl, _, value, Extended.of_le_of.mpr least⟩,
      _, value, _, rfl, Extended.of_le_of.mpr most⟩
  · rintro ⟨⟨_, isZero, value, isValue, least⟩, value', isValue', _, isOne, most⟩
    cases isZero
    cases isOne
    rw [isValue, Option.some.injEq] at isValue'
    subst isValue'
    have below : value < .of 2 := most.trans_lt (Extended.of_lt_of.mpr one_lt_two)
    obtain ⟨rational, rfl⟩ := Extended.exists_of_between least below
    exact ⟨rational, isValue, Extended.of_le_of.mp least, Extended.of_le_of.mp most⟩

theorem ratioSampler_eq (ratio : Binary) [Decidable (IsRatio ratio)] :
    ratioSampler ratio =
      if IsRatio ratio then .ok (.ratio (BinaryFormat.double.adopt ratio))
      else .error (.invalidArgument (.ratioOutOfRange ratio)) := by
  unfold ratioSampler
  simp only [isRatio_iff]

def takesArgument (name : String) : Prop :=
  name = "counting" ∨ name = "traceidratio"

inductive ReadsSampler (environment : Environment) (draw : Nat → Nat) :
    Except TracingError Sampler → Prop where
  | unset (unset : environment .sampler = none) : ReadsSampler environment draw (.ok .always)
  | alwaysOn (named : environment .sampler = some "always_on") :
      ReadsSampler environment draw (.ok .always)
  | alwaysOff (named : environment .sampler = some "always_off") :
      ReadsSampler environment draw (.ok .never)
  | counting {number : Binary} {result : Except TracingError Sampler}
      (named : environment .sampler = some "counting")
      (argument : ReadsArgument environment (.ok number)) (counts : CountsAt draw number result) :
      ReadsSampler environment draw result
  | ratio {number : Binary} (named : environment .sampler = some "traceidratio")
      (argument : ReadsArgument environment (.ok number)) (isRatio : IsRatio number) :
      ReadsSampler environment draw (.ok (.ratio (BinaryFormat.double.adopt number)))
  | notRatio {number : Binary} (named : environment .sampler = some "traceidratio")
      (argument : ReadsArgument environment (.ok number)) (outside : ¬IsRatio number) :
      ReadsSampler environment draw (.error (.invalidArgument (.ratioOutOfRange number)))
  | argument {name : String} {cause : TracingError} (named : environment .sampler = some name)
      (takes : takesArgument name) (fault : ReadsArgument environment (.error cause)) :
      ReadsSampler environment draw (.error cause)
  | unknown {name : String} (named : environment .sampler = some name)
      (unlisted : name ∉ ["always_on", "always_off", "counting", "traceidratio"]) :
      ReadsSampler environment draw (.error (.invalidArgument (.unknownSampler name)))

theorem samplerOf_eq_iff {draw : Nat → Nat} {result : Except TracingError Sampler} :
    samplerOf environment .always draw = result ↔ ReadsSampler environment draw result := by
  classical
  constructor
  · rintro rfl
    unfold samplerOf
    split
    · next unset => exact .unset unset
    · next named => exact .alwaysOn named
    · next named => exact .alwaysOff named
    · next named =>
        cases argument : samplerArgument environment with
        | error cause => exact .argument named (.inl rfl) (samplerArgument_eq_iff.mp argument)
        | ok number =>
            exact .counting named (samplerArgument_eq_iff.mp argument) (ofRate_eq_iff.mp rfl)
    · next named =>
        cases argument : samplerArgument environment with
        | error cause => exact .argument named (.inr rfl) (samplerArgument_eq_iff.mp argument)
        | ok number =>
            change ReadsSampler environment draw (ratioSampler number)
            rw [ratioSampler_eq]
            split
            · next isRatio => exact .ratio named (samplerArgument_eq_iff.mp argument) isRatio
            · next outside => exact .notRatio named (samplerArgument_eq_iff.mp argument) outside
    · next name notOn notOff notCounting notRatio named =>
        refine .unknown named ?_
        simp only [List.mem_cons, List.not_mem_nil, or_false, not_or]
        exact ⟨notOn, notOff, notCounting, notRatio⟩
  · intro reads
    unfold samplerOf
    cases reads with
    | unset unset => rw [unset]
    | alwaysOn named =>
        rw [named]
        rfl
    | alwaysOff named =>
        rw [named]
        rfl
    | counting named argument counts =>
        rw [named, samplerArgument_eq_iff.mpr argument]
        exact ofRate_eq_iff.mpr counts
    | ratio named argument isRatio =>
        rw [named, samplerArgument_eq_iff.mpr argument]
        exact (ratioSampler_eq _).trans (if_pos isRatio)
    | notRatio named argument outside =>
        rw [named, samplerArgument_eq_iff.mpr argument]
        exact (ratioSampler_eq _).trans (if_neg outside)
    | argument named takes fault =>
        rw [samplerArgument_eq_iff.mpr fault, named]
        rcases takes with rfl | rfl
        · rfl
        · rfl
    | unknown named unlisted =>
        rw [named]
        simp only [List.mem_cons, List.not_mem_nil, or_false, not_or] at unlisted
        obtain ⟨notOn, notOff, notCounting, notRatio⟩ := unlisted
        split
        · next same => cases same
        · next same => exact absurd (Option.some.inj same) notOn
        · next same => exact absurd (Option.some.inj same) notOff
        · next same => exact absurd (Option.some.inj same) notCounting
        · next same => exact absurd (Option.some.inj same) notRatio
        · next same =>
            cases same
            rfl

/-- What an environment says as a whole.  The first fault decides. -/
inductive Reads (environment : Environment) (entropy : Entropy) (draw : Nat → Nat) :
    Except TracingError Configuration → Prop where
  | width {cause : TracingError} (fault : ReadsWidth environment (.error cause)) :
      Reads environment entropy draw (.error cause)
  | sampler {wide : Bool} {cause : TracingError} (width : ReadsWidth environment (.ok wide))
      (fault : ReadsSampler environment draw (.error cause)) :
      Reads environment entropy draw (.error cause)
  | made {wide : Bool} {sampler : Sampler} (width : ReadsWidth environment (.ok wide))
      (sampled : ReadsSampler environment draw (.ok sampler)) :
      Reads environment entropy draw
        (.ok {
          standard entropy with
          serviceName := (serviceName? environment).getD (standard entropy).serviceName
          wide := wide
          sampler := sampler })

theorem ofEnvironment_eq_iff {entropy : Entropy} {draw : Nat → Nat}
    {result : Except TracingError Configuration} :
    ofEnvironment environment entropy draw = result ↔ Reads environment entropy draw result := by
  constructor
  · rintro rfl
    unfold ofEnvironment
    change Reads environment entropy draw
      (wideOf environment false >>= fun wide => samplerOf environment .always draw >>= _)
    cases width : wideOf environment false with
    | error cause => exact .width (wideOf_eq_iff.mp width)
    | ok wide =>
        cases sampled : samplerOf environment .always draw with
        | error cause => exact .sampler (wideOf_eq_iff.mp width) (samplerOf_eq_iff.mp sampled)
        | ok sampler => exact .made (wideOf_eq_iff.mp width) (samplerOf_eq_iff.mp sampled)
  · intro reads
    unfold ofEnvironment
    change (wideOf environment false >>= fun wide => samplerOf environment .always draw >>= _) = _
    cases reads with
    | width fault =>
        rw [wideOf_eq_iff.mpr fault]
        rfl
    | sampler width fault =>
        rw [wideOf_eq_iff.mpr width, samplerOf_eq_iff.mpr fault]
        rfl
    | made width sampled =>
        rw [wideOf_eq_iff.mpr width, samplerOf_eq_iff.mpr sampled]
        rfl

/-! ### Accepted environments -/

/-- The environment names no sampler or a known one, with an argument if it takes one. -/
inductive AcceptsSampler (environment : Environment) : Prop where
  | unset (unset : environment .sampler = none)
  | alwaysOn (named : environment .sampler = some "always_on")
  | alwaysOff (named : environment .sampler = some "always_off")
  | counting {text : String} {number : Binary} (named : environment .sampler = some "counting")
      (set : environment .samplerArgument = some text)
      (isRead : Numeral.readSingle? (Blank.trim text) = some number) (isShare : number.IsShare)
  | ratio {text : String} {number : Binary} (named : environment .sampler = some "traceidratio")
      (set : environment .samplerArgument = some text)
      (isRead : Numeral.readSingle? (Blank.trim text) = some number) (isRatio : IsRatio number)

theorem countsAt_ok {draw : Nat → Nat} {rate : Binary} :
    (∃ sampler, CountsAt draw rate (.ok sampler)) ↔ rate.IsShare := by
  constructor
  · rintro ⟨sampler, counts⟩
    by_contra outside
    have refused := ofRate_eq_iff.mpr (@CountsAt.refused draw rate outside)
    rw [ofRate_eq_iff.mpr counts] at refused
    cases refused
  · rintro ⟨rational, value, rfl | rfl | ⟨least, below⟩⟩
    · exact ⟨_, .none value⟩
    · exact ⟨_, .all value⟩
    · exact ⟨_, .share value least below⟩

theorem readsSampler_ok (draw : Nat → Nat) :
    (∃ sampler, ReadsSampler environment draw (.ok sampler)) ↔ AcceptsSampler environment := by
  constructor
  · rintro ⟨sampler, reads⟩
    cases reads with
    | unset unset => exact .unset unset
    | alwaysOn named => exact .alwaysOn named
    | alwaysOff named => exact .alwaysOff named
    | counting named argument counts =>
        cases argument with
        | number set isRead =>
            exact .counting named set isRead (countsAt_ok.mp ⟨sampler, counts⟩)
    | ratio named argument isRatio =>
        cases argument with
        | number set isRead => exact .ratio named set isRead isRatio
  · rintro (unset | named | named | ⟨named, set, isRead, isShare⟩ | ⟨named, set, isRead, isRatio⟩)
    · exact ⟨_, .unset unset⟩
    · exact ⟨_, .alwaysOn named⟩
    · exact ⟨_, .alwaysOff named⟩
    · obtain ⟨sampler, counts⟩ := countsAt_ok.mpr isShare
      exact ⟨sampler, .counting named (.number set isRead) counts⟩
    · exact ⟨_, .ratio named (.number set isRead) isRatio⟩

theorem readsWidth_ok :
    (∃ wide, ReadsWidth environment (.ok wide)) ↔
      ∀ text, environment .wideTraceIds = some text → ∃ wide, Spells text wide := by
  constructor
  · rintro ⟨wide, unset | ⟨set, spelled⟩⟩ text found
    · rw [unset] at found
      cases found
    · rw [set] at found
      cases found
      exact ⟨wide, spelled⟩
  · intro spelled
    cases found : environment .wideTraceIds with
    | none => exact ⟨false, .unset found⟩
    | some text =>
        obtain ⟨wide, spelled⟩ := spelled text found
        exact ⟨wide, .spelled found spelled⟩

theorem ofEnvironment_ok (entropy : Entropy) (draw : Nat → Nat) :
    (∃ configuration, ofEnvironment environment entropy draw = .ok configuration) ↔
      (∀ text, environment .wideTraceIds = some text → ∃ wide, Spells text wide) ∧
        AcceptsSampler environment := by
  rw [← readsWidth_ok, ← readsSampler_ok draw]
  constructor
  · rintro ⟨configuration, made⟩
    cases ofEnvironment_eq_iff.mp made with
    | made width sampled => exact ⟨⟨_, width⟩, _, sampled⟩
  · rintro ⟨⟨wide, width⟩, sampler, sampled⟩
    exact ⟨_, ofEnvironment_eq_iff.mpr (.made width sampled)⟩

theorem Reads.invalidArgument {entropy : Entropy} {draw : Nat → Nat} {cause : TracingError}
    (reads : Reads environment entropy draw (.error cause)) :
    ∃ bad, cause = .invalidArgument bad := by
  cases reads with
  | width fault =>
      cases fault
      exact ⟨_, rfl⟩
  | sampler width fault =>
      cases fault with
      | counting named argument counts =>
          cases counts
          exact ⟨_, rfl⟩
      | notRatio named argument outside => exact ⟨_, rfl⟩
      | argument named takes fault => cases fault <;> exact ⟨_, rfl⟩
      | unknown named unlisted => exact ⟨_, rfl⟩

theorem ReadsWidth.unique {wide other : Bool} (reads : ReadsWidth environment (.ok wide))
    (also : ReadsWidth environment (.ok other)) : wide = other := by
  have same := (wideOf_eq_iff.mpr reads).symm.trans (wideOf_eq_iff.mpr also)
  exact Except.ok.inj same

theorem ReadsSampler.unique {draw : Nat → Nat} {sampler other : Sampler}
    (reads : ReadsSampler environment draw (.ok sampler))
    (also : ReadsSampler environment draw (.ok other)) : sampler = other := by
  have same := (samplerOf_eq_iff.mpr reads).symm.trans (samplerOf_eq_iff.mpr also)
  exact Except.ok.inj same

theorem ReadsSampler.ratio_value {draw : Nat → Nat} {sampler : Sampler} {bound : Binary}
    (reads : ReadsSampler environment draw (.ok sampler)) (isRatio : sampler = .ratio bound) :
    ∃ number, ReadsArgument environment (.ok number) ∧ bound.value? = number.value? := by
  cases reads with
  | unset | alwaysOn | alwaysOff => cases isRatio
  | counting named argument counts => cases counts <;> cases isRatio
  | ratio named argument inRange =>
      cases isRatio
      refine ⟨_, argument, ?_⟩
      cases argument with
      | number set isRead => exact Numeral.adopt_value isRead

theorem samplerOf_congr (other : Environment) (standard : Sampler) (draw : Nat → Nat)
    (same : other .sampler = environment .sampler)
    (notCounting : environment .sampler ≠ some "counting")
    (notRatio : environment .sampler ≠ some "traceidratio") :
    samplerOf other standard draw = samplerOf environment standard draw := by
  unfold samplerOf
  rw [same]
  split
  · rfl
  · rfl
  · rfl
  · next named => exact absurd named notCounting
  · next named => exact absurd named notRatio
  · rfl

/-- Where the sampler takes no argument, the argument has no influence. -/
theorem ofEnvironment_congr (other : Environment) (entropy : Entropy) (draw : Nat → Nat)
    (agree : ∀ setting, setting ≠ .samplerArgument → other setting = environment setting)
    (notCounting : environment .sampler ≠ some "counting")
    (notRatio : environment .sampler ≠ some "traceidratio") :
    ofEnvironment other entropy draw = ofEnvironment environment entropy draw := by
  have width : wideOf other = wideOf environment := by
    unfold wideOf
    rw [agree .wideTraceIds nofun]
  have name : serviceName? other = serviceName? environment := by
    unfold serviceName?
    rw [agree .serviceName nofun]
  have sampler := samplerOf_congr other (standard entropy).sampler draw
    (agree .sampler nofun) notCounting notRatio
  unfold ofEnvironment
  dsimp only
  rw [width, name, sampler]

theorem serviceName?_set {name : String} (set : environment .serviceName = some name)
    (nonempty : name ≠ "") : serviceName? environment = some name := by
  unfold serviceName?
  rw [set, Option.filter_some_pos]
  simpa using nonempty

theorem serviceName?_unset
    (unset : environment .serviceName = none ∨ environment .serviceName = some "") :
    serviceName? environment = none := by
  unfold serviceName?
  rcases unset with unset | empty
  · rw [unset, Option.filter_none]
  · rw [empty]
    decide

/-- An environment gives a configuration exactly if the width is unset or spells a boolean
and the sampler is unset or known, with an argument in its range if it takes one; otherwise
the result is an error about an argument.  The configuration has the width, the sampler and
the name that are set, and is the standard one in all else; a ratio keeps its value in 64
bits; and the argument has no influence where the sampler takes none. -/
theorem ofEnvironment_accepts_iff (environment : Environment) (entropy : Entropy)
    (draw : Nat → Nat) :
    let result := ofEnvironment environment entropy draw
    let base := standard entropy
    ((∃ configuration, result = .ok configuration) ↔
      (∀ text, environment .wideTraceIds = some text → ∃ wide, Spells text wide) ∧
        AcceptsSampler environment) ∧
      (∀ cause, result = .error cause → ∃ bad, cause = .invalidArgument bad) ∧
      (∀ configuration, result = .ok configuration →
        ReadsWidth environment (.ok configuration.wide) ∧
          ReadsSampler environment draw (.ok configuration.sampler) ∧
          (∀ name, environment .serviceName = some name → name ≠ "" →
            configuration.serviceName = name) ∧
          (environment .serviceName = none ∨ environment .serviceName = some "" →
            configuration.serviceName = base.serviceName) ∧
          (environment .wideTraceIds = none → configuration.wide = base.wide) ∧
          (environment .sampler = none → configuration.sampler = base.sampler) ∧
          configuration.ids = base.ids ∧ configuration.joins = base.joins ∧
          ∀ bound, configuration.sampler = .ratio bound →
            ∃ number, ReadsArgument environment (.ok number) ∧ bound.value? = number.value?) ∧
      ∀ other : Environment,
        (∀ setting, setting ≠ .samplerArgument → other setting = environment setting) →
        environment .sampler ≠ some "counting" → environment .sampler ≠ some "traceidratio" →
        ofEnvironment other entropy draw = result := by
  intro result base
  refine ⟨?_, ?_, ?_, ?_⟩
  · exact ofEnvironment_ok entropy draw
  · intro cause refused
    exact (ofEnvironment_eq_iff.mp refused).invalidArgument
  · intro configuration made
    cases ofEnvironment_eq_iff.mp made with
    | made width sampled =>
        refine ⟨width, sampled, ?_, ?_, ?_, ?_, rfl, rfl, ?_⟩
        · intro name set nonempty
          dsimp only
          rw [serviceName?_set set nonempty]
          rfl
        · intro unset
          dsimp only
          rw [serviceName?_unset unset]
          rfl
        · intro unset
          exact width.unique (.unset unset)
        · intro unset
          exact sampled.unique (.unset unset)
        · intro bound isBound
          exact sampled.ratio_value isBound
  · intro other agree notCounting notRatio
    exact ofEnvironment_congr other entropy draw agree notCounting notRatio

end Configuration

end SpanTrail
