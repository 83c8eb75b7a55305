import Microworlds.CommandLine.Run
import Microworlds.Proofs.Decimal.Bits
import Microworlds.Proofs.Decimal.Quotient
import Microworlds.Proofs.Handler

/-!
# Which speeds have a timing

The pauses of a replay are divided by its speed, and a pause of `2 ^ 64` seconds or more cannot be waited
for. The longest pause is a comparison's, so a comparison settles how slow a replay may be. Every speed
that is finite and positive passes the check of the settings, and the slowest of them have no timing.
-/

namespace Microworlds.Proofs

open Float.Model (Format UnpackedFloat)
open Float.Model.UnpackedFloat hiding Sign round normalize

/-! ### Times in seconds -/

/-- The exponent of a number as it stands in its bits. -/
def exponentField (x : Float) : Nat :=
  x.toBits.toNat / Decimal.Binary.leastNormal % 2048

lemma exponentField_eq (x : Float) :
    exponentField x = (@unpackExponent Format.binary64 x.toModel.toBits.toBitVec).toNat :=
  (toNat_unpackExponent x).symm

lemma ofSeconds?_of_parts {x : Float} {b : Decimal.Binary} (h : Decimal.Binary.ofFloat x = some b) :
    (Timing.ofSeconds? x).isSome ↔
      b.mantissa * 2 ^ b.exponent.toNat / 2 ^ (-b.exponent).toNat ≤ Word.greatest64 := by
  unfold Timing.ofSeconds?
  rw [h]
  change (if b.mantissa * 2 ^ b.exponent.toNat / 2 ^ (-b.exponent).toNat ≤ Word.greatest64 then _
    else none : Option Nat).isSome ↔ _
  split
  · next hle => simp [hle]
  · next hgt => simp [hgt]

lemma seconds_le_iff {m : Nat} {e : Int} (hfull : 2 ^ 52 ≤ m) (hshort : m < 2 ^ 53) :
    m * 2 ^ e.toNat / 2 ^ (-e).toNat ≤ Word.greatest64 ↔ e ≤ 11 := by
  constructor
  · intro hle
    by_contra hlong
    have hunit : (-e).toNat = 0 := by omega
    rw [hunit, Nat.pow_zero, Nat.div_one] at hle
    refine absurd hle (Nat.not_le.mpr ?_)
    calc
      Word.greatest64 < 2 ^ 52 * 2 ^ 12 := by decide
      _ ≤ m * 2 ^ e.toNat :=
        Nat.mul_le_mul hfull (Nat.pow_le_pow_right (by decide) (by omega))
  · intro hle
    refine Nat.le_trans (Nat.div_le_self _ _) (Nat.le_of_lt_succ ?_)
    calc
      m * 2 ^ e.toNat < 2 ^ 53 * 2 ^ e.toNat :=
        Nat.mul_lt_mul_of_pos_right hshort (Nat.two_pow_pos _)
      _ ≤ 2 ^ 53 * 2 ^ 11 :=
        Nat.mul_le_mul_left _ (Nat.pow_le_pow_right (by decide) (by omega))
      _ = Word.greatest64.succ := by decide

lemma ofSeconds?_isSome {x : Float} : (Timing.ofSeconds? x).isSome ↔ exponentField x < 1087 := by
  have hfraction : x.toBits.toNat % Decimal.Binary.leastNormal < 2 ^ 52 :=
    Nat.mod_lt _ (by decide)
  by_cases hall : exponentField x = 2047
  · have hparts : Decimal.Binary.ofFloat x = none := if_pos hall
    have hnone : Timing.ofSeconds? x = none := by
      rw [Timing.ofSeconds?, hparts]
      rfl
    simp [hnone, hall]
  by_cases hzero : exponentField x = 0
  · have hparts : Decimal.Binary.ofFloat x = some
        ⟨Decimal.Binary.signBit x, x.toBits.toNat % Decimal.Binary.leastNormal, -1074⟩ :=
      (if_neg hall).trans (if_pos hzero)
    rw [ofSeconds?_of_parts hparts, hzero]
    refine iff_of_true (Nat.le_trans (Nat.div_le_self _ _) ?_) (by decide)
    change x.toBits.toNat % Decimal.Binary.leastNormal * 2 ^ 0 ≤ 18446744073709551615
    omega
  have hparts : Decimal.Binary.ofFloat x = some ⟨Decimal.Binary.signBit x,
      2 ^ 52 + x.toBits.toNat % Decimal.Binary.leastNormal, Int.ofNat (exponentField x) - 1075⟩ :=
    (if_neg hall).trans (if_neg hzero)
  have hshort : 2 ^ 52 + x.toBits.toNat % Decimal.Binary.leastNormal < 2 ^ 53 := by omega
  rw [ofSeconds?_of_parts hparts, seconds_le_iff (Nat.le_add_right _ _) hshort]
  simp only [Int.ofNat_eq_natCast]
  omega

/-! ### How long a pause is at a speed -/

lemma exponent_of_below {b : Nat} {bits : BitVec Format.binary64.numBits}
    (h : Below b (unpack Format.binary64 bits)) : (unpackExponent bits).toNat ≤ 1022 + b := by
  unfold unpack at h
  simp only at h
  split at h
  · split at h <;> cases h
  · split at h
    · next hzero =>
      rw [hzero]
      exact Nat.zero_le _
    · cases h with
      | finite k hk hkb =>
        have hlong : 52 < k := (Nat.pow_lt_pow_iff_right (a := 2) (by decide)).mp
          (Nat.lt_of_le_of_lt (leading_one_le (unpackMantissa bits)) hk)
        simp only [Format.exponentBias] at hkb
        omega

lemma exponent_of_long (sign : UnpackedFloat.Sign) {k : Nat} {g : Int} (h : 0 < k)
    (hk : k.log2 = 52) (hg : 12 ≤ g) :
    1087 ≤ (unpackExponent (pack Format.binary64 (.finite sign k g h))).toNat := by
  unfold pack
  simp only
  split
  · rw [packedInfinity, unpackExponent_packComponents]
    decide
  · next hrange =>
    simp only [Format.exponentBias] at hrange
    rw [if_pos (by rw [hk]; rfl), unpackExponent_packComponents]
    simp only [Format.exponentBias, BitVec.toNat_ofNat]
    rw [Nat.mod_eq_of_lt (by omega)]
    omega

/-- The greatest speed at which the pause of a comparison reaches `2 ^ 64` seconds. -/
def slowest : Float := 0.8 / 18446744073709551616

lemma measured_slowest : Measured slowest 7205759403792794 (-117) where
  unpacked := ⟨by decide, rfl⟩
  short := by decide
  full := .inl (by decide)

lemma measured_compare :
    Measured (Float.ofNat Timing.standard.compare / 1e9) 7205759403792794 (-53) where
  unpacked := ⟨by decide, rfl⟩
  short := by decide
  full := .inl (by decide)

def standardPauses : List Nat :=
  [Timing.standard.compare, Timing.standard.swap, Timing.standard.settle,
    Timing.standard.accumulate, Timing.standard.other, Timing.standard.betweenLines]

lemma pause_measured : ∀ pause ∈ standardPauses, ∃ m e,
    Measured (Float.ofNat pause / 1e9) m e ∧ m ≤ 7205759403792794 ∧ e ≤ -53 := by
  have hswap : Measured (Float.ofNat Timing.standard.swap / 1e9) 7205759403792794 (-54) :=
    ⟨⟨by decide, rfl⟩, by decide, .inl (by decide)⟩
  have hhalf : Measured (Float.ofNat Timing.standard.accumulate / 1e9) 4503599627370496 (-53) :=
    ⟨⟨by decide, rfl⟩, by decide, .inl (by decide)⟩
  have hother : Measured (Float.ofNat Timing.standard.other / 1e9) 5404319552844595 (-54) :=
    ⟨⟨by decide, rfl⟩, by decide, .inl (by decide)⟩
  simp only [standardPauses, List.forall_mem_cons]
  exact ⟨⟨_, _, measured_compare, by decide, by decide⟩, ⟨_, _, hswap, by decide, by decide⟩,
    ⟨_, _, hswap, by decide, by decide⟩, ⟨_, _, hhalf, by decide, by decide⟩,
    ⟨_, _, hother, by decide, by decide⟩, ⟨_, _, hhalf, by decide, by decide⟩,
    List.forall_mem_nil _⟩

section Speed

variable {speed : Float} {n : Nat} {f : Int}

lemma above_slowest (hspeed : Measured speed n f) (h : slowest < speed) :
    -117 ≤ f ∧ 7205759403792794 < n * 2 ^ (f - -117).toNat := by
  obtain hf | ⟨rfl, hn⟩ := (measured_slowest.lt_iff hspeed).mp h
  · have hfull : 2 ^ 52 ≤ n := hspeed.full.resolve_right (by omega)
    refine ⟨hf.le, ?_⟩
    calc
      7205759403792794 < 2 ^ 52 * 2 ^ 1 := by decide
      _ ≤ n * 2 ^ (f - -117).toNat :=
        Nat.mul_le_mul hfull (Nat.pow_le_pow_right (by decide) (by omega))
  · exact ⟨Int.le_refl _, by simpa using hn⟩

/-- Every pause can be waited for at a speed above the slowest. -/
lemma hurry?_of_fast (hspeed : Measured speed n f) (h : slowest < speed) :
    ∀ pause ∈ standardPauses, ∃ shortened, Timing.hurry? speed pause = some shortened := by
  intro pause hpause
  obtain ⟨m, e, hmeasured, hm, he⟩ := pause_measured pause hpause
  obtain ⟨hf, hn⟩ := above_slowest hspeed h
  have hbelow := quotient_below hmeasured hspeed (by decide) (by decide) (by decide) hm he hf hn
  have hpacked := below_unpack_pack (by decide) (by decide) hbelow
  have hfield : exponentField (Float.ofNat pause / 1e9 / speed) < 1087 := by
    rw [exponentField_eq]
    exact Nat.lt_succ_of_le (exponent_of_below (b := 64) hpacked)
  exact Option.isSome_iff_exists.mp (ofSeconds?_isSome.mpr hfield)

lemma hurry?_of_slow (hspeed : Measured speed n f) (h : ¬ slowest < speed) :
    Timing.hurry? speed Timing.standard.compare = none := by
  rw [measured_slowest.lt_iff hspeed] at h
  obtain ⟨k, g, hpos, hdiv, hk, hg⟩ := quotient_reaches measured_compare hspeed (F := -117) (by decide)
    (by decide) (by omega)
  have hfield : 1087 ≤ exponentField (Float.ofNat Timing.standard.compare / 1e9 / speed) := by
    rw [exponentField_eq]
    have hlong := exponent_of_long .positive hpos hk (g := g) (by omega)
    rw [← hdiv] at hlong
    exact hlong
  rw [← Option.not_isSome_iff_eq_none]
  exact fun hsome => absurd (ofSeconds?_isSome.mp hsome) (Nat.not_lt.mpr hfield)

end Speed

lemma scaled?_isSome {speed : Float} (hfinite : IsFinite speed) (hpos : 0 < speed) :
    (Timing.scaled? speed).isSome ↔ slowest < speed := by
  obtain ⟨n, f, hspeed⟩ := measured_of_pos hfinite hpos
  have hpositive : (speed.isFinite && decide (0 < speed)) = true := by
    rw [Bool.and_eq_true]
    exact ⟨hfinite, decide_eq_true hpos⟩
  rw [Timing.scaled?, if_pos hpositive]
  constructor
  · intro hsome
    by_contra hslow
    rw [hurry?_of_slow hspeed hslow] at hsome
    cases hsome
  · intro hfast
    have hpauses := hurry?_of_fast hspeed hfast
    simp only [standardPauses, List.forall_mem_cons] at hpauses
    obtain ⟨⟨compare, hcompare⟩, ⟨swap, hswap⟩, ⟨settle, hsettle⟩, ⟨accumulate, haccumulate⟩,
      ⟨other, hother⟩, ⟨betweenLines, hbetween⟩, -⟩ := hpauses
    rw [hcompare, hswap, hsettle, haccumulate, hother, hbetween]
    rfl

/-! ### Replays with settings that have been checked -/

/-- Settings that are given out, read from a text or with an environment over other settings. -/
inductive GivenOut (config : Config) : Prop where
  | read {text : String} (h : Config.ofText text = .ok config)
  | overridden {lookup : String → Option String} {base : Config}
    (h : base.withOverrides lookup = .ok config)

lemma validate_speed {config checked : Config} (h : config.validate = .ok checked) :
    IsFinite checked.replaySpeed ∧ 0 < checked.replaySpeed := by
  unfold Config.validate at h
  split at h
  · cases h
  · split at h
    · cases h
    · next hspeed =>
      cases h
      simpa [IsFinite] using hspeed

lemma GivenOut.speed {config : Config} (h : GivenOut config) :
    IsFinite config.replaySpeed ∧ 0 < config.replaySpeed := by
  cases h with
  | read h =>
    unfold Config.ofText at h
    split at h
    · exact validate_speed h
    · cases h
  | overridden h =>
    obtain ⟨_, -, h⟩ := bind_eq_ok.1 h
    obtain ⟨_, -, h⟩ := bind_eq_ok.1 h
    obtain ⟨_, -, h⟩ := bind_eq_ok.1 h
    exact validate_speed h

/-- Settings that have been checked can be replayed above the slowest speed, and not below it. Whatever
settings are read from a text or taken from an environment, there is a timing for them exactly if a
comparison takes less than `2 ^ 64` seconds at their speed. The command line then shows the frames of a
replay and goes on to the results, and otherwise it breaks down after the run. -/
theorem replay_above_slowest (config : Config) (h : GivenOut config) :
    ((Timing.scaled? config.replaySpeed).isSome ↔ slowest < config.replaySpeed) ∧
    ∀ (m : Type → Type) [Monad m] (host : CommandLine.Host m) (arguments : CommandLine.Arguments)
      (results : List LineResult), arguments.replay = true →
        (slowest < config.replaySpeed → ∃ timing, Timing.scaled? config.replaySpeed = some timing ∧
          CommandLine.showRun host arguments config results = do
            CommandLine.showFrames host (frames timing results)
            CommandLine.printResults host arguments.json results
            return if results.all (·.isSuccess) then .success else .failure) ∧
        (¬ slowest < config.replaySpeed →
          CommandLine.showRun host arguments config results = return .breakdown) := by
  have htiming := scaled?_isSome h.speed.1 h.speed.2
  refine ⟨htiming, fun m _ host arguments results hreplay => ⟨fun hfast => ?_, fun hslow => ?_⟩⟩
  · obtain ⟨timing, hsome⟩ := Option.isSome_iff_exists.mp (htiming.mpr hfast)
    refine ⟨timing, hsome, ?_⟩
    unfold CommandLine.showRun
    simp only [hreplay, if_true, hsome]
  · have hnone : Timing.scaled? config.replaySpeed = none :=
      Option.not_isSome_iff_eq_none.mp fun hsome => hslow (htiming.mp hsome)
    unfold CommandLine.showRun
    simp only [hreplay, if_true, hnone]

/-- An environment in which only the speed of replays is set. -/
def withSpeed (speed : String) (key : String) : Option String :=
  if key = "PLAYGROUND_REPLAY_SPEED" then some speed else none

/-- A host that has nothing to read and shows nothing. -/
def emptyHost : CommandLine.Host Id where
  environment? _ := none
  contents _ := .error ⟨true, "No such file"⟩
  input := .error ⟨false, "closed"⟩
  overwrite _ _ := false
  print _ := ()
  complain _ := ()
  wait _ := ()
  now := ⟨0, 0⟩

/-- The settings let both speeds pass. At the one a replay breaks down, at the other it is shown. -/
theorem replay_at_two_speeds :
    Config.standard.withOverrides (withSpeed "1e-20") = .ok ⟨8, 7, 1e-20, none⟩ ∧
    Timing.scaled? 1e-20 = none ∧
    CommandLine.showRun emptyHost ⟨"math", .standardInput, false, true⟩ ⟨8, 7, 1e-20, none⟩ [] =
      .breakdown ∧
    Config.standard.withOverrides (withSpeed "1e-19") = .ok ⟨8, 7, 1e-19, none⟩ ∧
    CommandLine.showRun emptyHost ⟨"math", .standardInput, false, true⟩ ⟨8, 7, 1e-19, none⟩ [] =
      .success := by
  have hslow : Config.standard.withOverrides (withSpeed "1e-20") = .ok ⟨8, 7, 1e-20, none⟩ := rfl
  have hfast : Config.standard.withOverrides (withSpeed "1e-19") = .ok ⟨8, 7, 1e-19, none⟩ := rfl
  have hbelow : ¬ slowest < 1e-20 := by decide +kernel
  have habove : slowest < 1e-19 := by decide +kernel
  obtain ⟨hnone, hbreak⟩ := replay_above_slowest ⟨8, 7, 1e-20, none⟩ (.overridden hslow)
  obtain ⟨-, hshow⟩ := replay_above_slowest ⟨8, 7, 1e-19, none⟩ (.overridden hfast)
  obtain ⟨timing, -, hrun⟩ :=
    (hshow Id emptyHost ⟨"math", .standardInput, false, true⟩ [] rfl).1 habove
  exact ⟨hslow, Option.not_isSome_iff_eq_none.mp fun hsome => hbelow (hnone.mp hsome),
    (hbreak Id emptyHost ⟨"math", .standardInput, false, true⟩ [] rfl).2 hbelow, hfast, hrun⟩

end Microworlds.Proofs
