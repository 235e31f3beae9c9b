import Tritonn.Lib.Logged
import Tritonn.Lib.Scale
import Tritonn.Shared.Units

/-!
The table of `rUnits::Init`, and when a conversion between its units is coherent.

* `unitsInit` is the table that `rUnits::Init` leaves, with whatever lies behind it, and
  `convertValueRead` is `rUnits::ConvertValue` with the places of the table at which it looks;
* `scale` is the scale of a unit, and `SameGroup` says that two units of the table have one base;
* `Coherent` says that a conversion goes through the base, is undone by the one back and composes
  with a second one, and that what is no conversion is refused with reads inside of the table;
* `coherent_iff` says when this is so: `convertValue` passes the base by, so that the value has to
  be the same on the base unless one of the units is the base itself.
-/

namespace Tritonn

/-! ### The table -/

/-- `UNIT_INIT`. -/
def unitInit (table : UnitsTable) (i : UInt32) (scale : Scale LREAL) : UnitsTable :=
  fun unit => if unit = i then ⟨some scale.offset, some scale.factor⟩ else table unit

/-- The units of `rUnits::Init` in the order in which they are written, each with its value
`A + B * X` for the value `X` of the base. -/
def unitInits : List (UInt32 × Scale LREAL) :=
  -- U_any
  [ (0, ⟨0, 1.0, by norm_num⟩),
    -- U_C, U_K and U_F
    (16, ⟨0.0, 1.0, by norm_num⟩),
    (17, ⟨273.15, 1.0, by norm_num⟩),
    (18, ⟨32.0, 1.8, by norm_num⟩),
    -- U_MPa, U_kPa, U_kgs_sm2, U_bar, U_mbar, U_atm, U_mmptst and U_psi
    (32, ⟨0, 1.0, by norm_num⟩),
    (33, ⟨0, 1000.0, by norm_num⟩),
    (34, ⟨0, 10.197162, by norm_num⟩),
    (35, ⟨0, 10.0, by norm_num⟩),
    (36, ⟨0, 10000, by norm_num⟩),
    (37, ⟨0, 9.869232667160128, by norm_num⟩),
    (38, ⟨0, 7500.637554192, by norm_num⟩),
    (39, ⟨0, 145.03773773022, by norm_num⟩),
    -- U_kg_m3 and U_g_sm3
    (48, ⟨0, 1.0, by norm_num⟩),
    (49, ⟨0, 0.001, by norm_num⟩),
    -- U_sP, U_P, U_kgss_m2 and U_Pas
    (64, ⟨0, 1.0, by norm_num⟩),
    (65, ⟨0, 0.01, by norm_num⟩),
    (66, ⟨0, 0.0001019716212978, by norm_num⟩),
    (67, ⟨0, 0.001, by norm_num⟩),
    -- U_sSt, U_St and U_m2_s
    (80, ⟨0, 1.0, by norm_num⟩),
    (81, ⟨0, 0.01, by norm_num⟩),
    (82, ⟨0, 0.000001, by norm_num⟩),
    -- U_t, U_kg and U_g
    (96, ⟨0, 1.0, by norm_num⟩),
    (97, ⟨0, 1000.0, by norm_num⟩),
    (98, ⟨0, 1000000.0, by norm_num⟩),
    -- U_m3, U_liter and U_ml
    (112, ⟨0, 1.0, by norm_num⟩),
    (113, ⟨0, 1000.0, by norm_num⟩),
    (114, ⟨0, 1000000.0, by norm_num⟩),
    -- U_t_h and U_kg_h
    (128, ⟨0, 1.0, by norm_num⟩),
    (129, ⟨0, 1000.0, by norm_num⟩),
    -- U_m3_h and U_ltr_h
    (144, ⟨0, 1.0, by norm_num⟩),
    (145, ⟨0, 1000.0, by norm_num⟩),
    -- U_imp_t and U_imp_kg
    (160, ⟨0, 1.0, by norm_num⟩),
    (161, ⟨0, 0.001, by norm_num⟩),
    -- U_imp_m3 and U_imp_ltr
    (176, ⟨0, 1.0, by norm_num⟩),
    (177, ⟨0, 0.001, by norm_num⟩),
    -- U_Hz, U_kHz and U_MHz
    (192, ⟨0, 1.0, by norm_num⟩),
    (193, ⟨0, 0.001, by norm_num⟩),
    (194, ⟨0, 0.000001, by norm_num⟩),
    -- U_usec, U_mksec, U_msec and U_sec
    (208, ⟨0, 1.0, by norm_num⟩),
    (209, ⟨0, 0.001, by norm_num⟩),
    (210, ⟨0, 0.000001, by norm_num⟩),
    (211, ⟨0, 0.000000001, by norm_num⟩),
    -- U_bytes, U_KBytes, U_MBytes twice and U_GBytes
    (224, ⟨0, 1.0, by norm_num⟩),
    (225, ⟨0, 1024.0, by norm_num⟩),
    (226, ⟨0, 1024.0 * 1024.0, by norm_num⟩),
    (226, ⟨0, 1024.0 * 1024.0 * 1024.0, by norm_num⟩),
    (227, ⟨0, 1024.0 * 1024.0 * 1024.0 * 1024.0, by norm_num⟩)]

/-- The table behind the `memset` of `rUnits::Init`. -/
def unitsCleared (behind : UnitsTable) : UnitsTable :=
  fun unit => if unit < uDimless then ⟨none, none⟩ else behind unit

/-- The table behind `rUnits::Init`. -/
def unitsInit (behind : UnitsTable) : UnitsTable :=
  unitInits.foldl (fun table e => unitInit table e.1 e.2) (unitsCleared behind)

/-- The scale that is written last for a unit. -/
def scaleOf (unit : UInt32) : Option (Scale LREAL) :=
  (unitInits.reverse.find? fun e => unit = e.1).map Prod.snd

/-- What a place of the table holds. -/
def UnitsAB.ofScale (scale : Option (Scale LREAL)) (rest : UnitsAB) : UnitsAB :=
  scale.elim rest fun s => ⟨some s.offset, some s.factor⟩

lemma unitsInit_apply (behind : UnitsTable) (unit : UInt32) :
    unitsInit behind unit = .ofScale (scaleOf unit) (unitsCleared behind unit) := by
  rw [unitsInit, scaleOf]
  induction unitInits using List.reverseRecOn with
  | nil => rfl
  | append_singleton l e ih =>
      rw [List.foldl_concat, List.reverse_concat, unitInit, List.find?_cons]
      by_cases h : unit = e.1
      · simp [h, UnitsAB.ofScale]
      · simpa [h] using ih

/-- What holds of everything that is written holds of the scale of a unit. -/
lemma scaleOf_induction {P : UInt32 → Scale LREAL → Prop} (h : ∀ e ∈ unitInits, P e.1 e.2)
    {unit : UInt32} {scale : Scale LREAL} (hs : scaleOf unit = some scale) : P unit scale := by
  obtain ⟨e, hfind, rfl⟩ := Option.map_eq_some_iff.mp hs
  have hunit : unit = e.1 := by simpa using List.find?_some hfind
  rw [hunit]
  exact h e (List.mem_reverse.mp (List.mem_of_find?_eq_some hfind))

/-- A unit of the table has its place in it. -/
lemma lt_of_scaleOf {unit : UInt32} {scale : Scale LREAL} (h : scaleOf unit = some scale) :
    unit < uDimless :=
  scaleOf_induction (P := fun unit _ => unit < uDimless) (by decide) h

/-- The unit is the base of its group. -/
def IsBase (unit : UInt32) : Prop := unit &&& 0x0F = 0

instance : DecidablePred IsBase := fun unit => inferInstanceAs (Decidable (unit &&& 0x0F = 0))

/-- Bases are written with the scale of a base. -/
lemma scale_of_isBase {unit : UInt32} {scale : Scale LREAL} (h : scaleOf unit = some scale)
    (hbase : IsBase unit) : scale = .base LREAL := by
  have hvalues : scale.offset = 0 ∧ scale.factor = 1 :=
    scaleOf_induction (P := fun unit scale => IsBase unit → scale.offset = 0 ∧ scale.factor = 1)
      (by decide +kernel) h hbase
  cases scale
  obtain ⟨rfl, rfl⟩ := hvalues
  rfl

/-- Besides `U_any` no unit is in its group. -/
lemma eq_uAny {unit : UInt32} {scale : Scale LREAL} (h : scaleOf unit = some scale)
    (hgroup : unit >>> 4 = 0) : unit = uAny :=
  scaleOf_induction (P := fun unit _ => unit >>> 4 = 0 → unit = uAny) (by decide) h hgroup

/-! ### The conversion -/

/-- The place of the table at which is looked. -/
def readAB (table : UnitsTable) (unit : UInt32) : Logged UInt32 UnitsAB := ⟨table unit, [unit]⟩

/-- A place that holds NaN. -/
def UnitsAB.isNan (ab : UnitsAB) : Bool := ab.A.isNone || ab.B.isNone

/-- `rUnits::ConvertValue` with the places of the table at which it looks. A NaN ends the reads; the
numbers of the units are compared with the length of the table only behind them, and what follows
looks at the same two places again. -/
def convertValueRead (table : UnitsTable) (srcVal : LREAL) (srcUnit dstUnit : UInt32) :
    Logged UInt32 (LREAL × UnitsError) :=
  if srcUnit = dstUnit ∨ srcUnit = uAny ∨ dstUnit = uAny then pure (srcVal, .none)
  else do
    let src ← readAB table srcUnit
    if src.isNan then return (srcVal, .isnan)
    let dst ← readAB table dstUnit
    if dst.isNan then return (srcVal, .isnan)
    return convertValue table srcVal srcUnit dstUnit

/-- There is something to convert: equal units are one, and `U_any` is none. -/
def IsConversion (u v : UInt32) : Prop := ¬ (u = v ∨ u = uAny ∨ v = uAny)

section Value

variable {table : UnitsTable} {u v : UInt32} {x : LREAL}

lemma UnitsAB.isNan_iff {ab : UnitsAB} : ab.isNan = true ↔ ab.A = none ∨ ab.B = none := by
  rw [UnitsAB.isNan, Bool.or_eq_true, Option.isNone_iff_eq_none, Option.isNone_iff_eq_none]

/-- A NaN in the table refuses the conversion. -/
lemma convertValue_of_isNan (h : IsConversion u v)
    (hnan : (table u).isNan = true ∨ (table v).isNan = true) :
    convertValue table x u v = (x, .isnan) := by
  rw [UnitsAB.isNan_iff, UnitsAB.isNan_iff] at hnan
  rw [convertValue, if_neg h]
  split
  · simp_all
  · rfl

/-- So do units of different groups, and those behind the table. -/
lemma convertValue_of_incompatible (h : IsConversion u v)
    (hunits : uDimless ≤ u ∨ uDimless ≤ v ∨ u >>> 4 ≠ v >>> 4) :
    (convertValue table x u v).1 = x ∧ (convertValue table x u v).2 ≠ .none := by
  rw [convertValue, if_neg h]
  split
  · rw [if_pos hunits]
    exact ⟨rfl, nofun⟩
  · exact ⟨rfl, nofun⟩

/-- The value of the conversion with its reads is that of the conversion. -/
lemma convertValueRead_val : (convertValueRead table x u v).val = convertValue table x u v := by
  rw [convertValueRead]
  split_ifs with hguard
  · rw [convertValue, if_pos hguard]
    rfl
  · by_cases hu : (table u).isNan = true
    · rw [convertValue_of_isNan hguard (.inl hu)]
      simp [readAB, hu]
    · by_cases hv : (table v).isNan = true
      · rw [convertValue_of_isNan hguard (.inr hv)]
        simp [readAB, hu]
      · simp [readAB, hu, hv]

/-- The reads of a conversion: at the first unit, and at the second one unless the first is NaN. -/
lemma convertValueRead_log (h : IsConversion u v) :
    (convertValueRead table x u v).log = if (table u).isNan then [u] else [u, v] := by
  rw [convertValueRead, if_neg h]
  by_cases hu : (table u).isNan = true
  · simp [readAB, hu]
  · by_cases hv : (table v).isNan = true
    · simp [readAB, hu, hv]
    · simp [readAB, hu, hv]

end Value

/-! ### Coherence -/

namespace Units

variable {behind : UnitsTable} {u v w : UInt32} {x : LREAL}

/-- The scale of a unit; what has none is left as it is. -/
def scale (unit : UInt32) : Scale LREAL := (scaleOf unit).getD (.base LREAL)

/-- The value that a conversion gives. -/
def converted (behind : UnitsTable) (u v : UInt32) (x : LREAL) : LREAL :=
  (convertValue (unitsInit behind) x u v).1

/-- Both units are in the table, and in one group. -/
def SameGroup (u v : UInt32) : Prop :=
  (scaleOf u).isSome ∧ (scaleOf v).isSome ∧ u >>> 4 = v >>> 4

instance : DecidableRel SameGroup :=
  fun u v => inferInstanceAs (Decidable (_ ∧ _ ∧ u >>> 4 = v >>> 4))

/-- Conversions go through the base, are undone by the one back and compose, and what has no common
base is refused with reads inside of the table. -/
structure Coherent (behind : UnitsTable) (u v w : UInt32) (x : LREAL) : Prop where
  through : SameGroup u v → converted behind u v x = (scale v).fromBase ((scale u).toBase x)
  back : SameGroup u v → converted behind v u (converted behind u v x) = x
  compose : SameGroup u v → SameGroup v w →
    converted behind v w (converted behind u v x) = converted behind u w x
  refused : IsConversion u v → ¬ SameGroup u v →
    converted behind u v x = x ∧ (convertValue (unitsInit behind) x u v).2 ≠ .none ∧
      (convertValueRead (unitsInit behind) x u v).All (· < uDimless)

/-- The base is not passed by: one of the units is the base, or the value is the same there. -/
def Direct (u v : UInt32) (x : LREAL) : Prop :=
  u = v ∨ IsBase u ∨ IsBase v ∨ (scale u).toBase x = x

/-- No conversion of the two in a row and of the one back passes the base by. -/
def AllDirect (u v w : UInt32) (x : LREAL) : Prop :=
  let y := (scale u).convert (scale v) x
  Direct u v x ∧ Direct v u y ∧ (SameGroup v w → u = v ∨ Direct v w y ∧ Direct u w x)

/-- The reads of a refused conversion stay in the table: the first unit has a place in it, and the
second one has unless the place of the first ends the reads. -/
def ReadsInside (u v : UInt32) : Prop := u < uDimless ∧ ((scaleOf u).isNone ∨ v < uDimless)

lemma SameGroup.symm (h : SameGroup u v) : SameGroup v u := ⟨h.2.1, h.1, h.2.2.symm⟩

lemma SameGroup.trans (h : SameGroup u v) (h' : SameGroup v w) : SameGroup u w :=
  ⟨h.1, h'.2.1, h.2.2.trans h'.2.2⟩

lemma scaleOf_eq (h : (scaleOf u).isSome) : scaleOf u = some (scale u) := by
  obtain ⟨s, hs⟩ := Option.isSome_iff_exists.mp h
  rw [scale, hs]
  rfl

/-- Different units of one group are no `U_any`. -/
lemma SameGroup.isConversion (h : SameGroup u v) (huv : u ≠ v) : IsConversion u v := by
  obtain ⟨hu, hv, hgroup⟩ := h
  rintro (rfl | rfl | rfl)
  · exact huv rfl
  · exact huv (eq_uAny (scaleOf_eq hv) (hgroup.symm.trans rfl)).symm
  · exact huv (eq_uAny (scaleOf_eq hu) (hgroup.trans rfl))

lemma unitsInit_scale (h : (scaleOf u).isSome) :
    unitsInit behind u = ⟨some (scale u).offset, some (scale u).factor⟩ := by
  rw [unitsInit_apply, scaleOf_eq h]
  rfl

/-- Within the table there is a number for the units of `rUnits::Init` and for no other. -/
lemma unitsInit_isNan (hu : u < uDimless) : (unitsInit behind u).isNan = (scaleOf u).isNone := by
  rw [unitsInit_apply, unitsCleared, if_pos hu]
  cases scaleOf u <;> rfl

lemma scale_of_base (h : (scaleOf u).isSome) (hbase : IsBase u) : scale u = .base LREAL :=
  scale_of_isBase (scaleOf_eq h) hbase

/-- What the conversion between different units of a group computes. -/
lemma converted_of_sameGroup (h : SameGroup u v) (huv : u ≠ v) :
    converted behind u v x = if IsBase v then (scale u).toBase x else (scale v).fromBase x := by
  have hlt : ¬ (uDimless ≤ u ∨ uDimless ≤ v ∨ u >>> 4 ≠ v >>> 4) := by
    have hu := lt_of_scaleOf (scaleOf_eq h.1)
    have hv := lt_of_scaleOf (scaleOf_eq h.2.1)
    rintro (h' | h' | h')
    · exact absurd hu (UInt32.not_lt.mpr h')
    · exact absurd hv (UInt32.not_lt.mpr h')
    · exact h' h.2.2
  rw [converted, convertValue, if_neg (h.isConversion huv), unitsInit_scale h.1,
    unitsInit_scale h.2.1]
  dsimp only
  rw [if_neg hlt]
  by_cases hbase : IsBase v
  · rw [if_pos hbase, if_neg (not_not.mpr (show v &&& 15 = 0 from hbase))]
    rfl
  · rw [if_neg hbase, if_pos (show v &&& 15 ≠ 0 from hbase)]
    rfl

/-- A conversion goes through the base if and only if it does not pass it by. -/
lemma converted_eq_iff (h : SameGroup u v) :
    converted behind u v x = (scale u).convert (scale v) x ↔ Direct u v x := by
  by_cases huv : u = v
  · subst huv
    rw [Scale.convert_self, converted, convertValue, if_pos (.inl rfl)]
    exact iff_of_true rfl (.inl rfl)
  · rw [converted_of_sameGroup h huv]
    by_cases hv : IsBase v
    · rw [if_pos hv, Scale.convert, scale_of_base h.2.1 hv, Scale.fromBase_base]
      exact iff_of_true rfl (.inr (.inr (.inl hv)))
    · rw [if_neg hv, Scale.convert, Scale.fromBase_inj]
      by_cases hu : IsBase u
      · rw [scale_of_base h.1 hu, Scale.toBase_base]
        exact iff_of_true rfl (.inr (.inl hu))
      · rw [Direct, or_iff_right huv, or_iff_right hu, or_iff_right hv, eq_comm]

/-- The conversion back of a value that went through the base gives the first value if and only if
it does not pass the base by. -/
lemma back_iff (h : SameGroup u v) :
    converted behind v u ((scale u).convert (scale v) x) = x ↔
      Direct v u ((scale u).convert (scale v) x) := by
  rw [← converted_eq_iff h.symm, Scale.convert_symm]

/-- Two conversions in a row are one if and only if neither the second one nor the one in its place
passes the base by. -/
lemma compose_iff (h : SameGroup u v) (h' : SameGroup v w) (hdirect : Direct u v x)
    (hback : Direct v u ((scale u).convert (scale v) x)) :
    converted behind v w ((scale u).convert (scale v) x) = converted behind u w x ↔
      u = v ∨ Direct v w ((scale u).convert (scale v) x) ∧ Direct u w x := by
  by_cases huv : u = v
  · subst huv
    rw [Scale.convert_self]
    exact iff_of_true rfl (.inl rfl)
  rw [or_iff_right huv]
  constructor
  · intro heq
    by_cases hw : IsBase w
    · exact ⟨.inr (.inr (.inl hw)), .inr (.inr (.inl hw))⟩
    by_cases huw : u = w
    · exact ⟨huw ▸ hback, .inl huw⟩
    by_cases hvw : v = w
    · exact ⟨.inl hvw, hvw ▸ hdirect⟩
    -- Both sides take their value for one of the base, so that the two values are the same.
    rw [converted_of_sameGroup h' hvw, converted_of_sameGroup (h.trans h') huw, if_neg hw,
      if_neg hw, Scale.fromBase_inj] at heq
    have hbase : (scale u).toBase x = x := by
      rcases hdirect with huv' | hu | hv | hx
      · exact absurd huv' huv
      · rw [scale_of_base h.1 hu, Scale.toBase_base]
      · rwa [Scale.convert, scale_of_base h.2.1 hv, Scale.fromBase_base] at heq
      · exact hx
    refine ⟨.inr (.inr (.inr ?_)), .inr (.inr (.inr hbase))⟩
    rw [Scale.toBase_convert, hbase, heq]
  · rintro ⟨hvw, huw⟩
    rw [(converted_eq_iff h').mpr hvw, (converted_eq_iff (h.trans h')).mpr huw,
      Scale.convert_convert]

/-- What is no conversion within a group is refused; its reads stay in the table if and only if the
units are in it. -/
lemma refused_iff (h : IsConversion u v) (hgroup : ¬ SameGroup u v) :
    converted behind u v x = x ∧ (convertValue (unitsInit behind) x u v).2 ≠ .none ∧
        (convertValueRead (unitsInit behind) x u v).All (· < uDimless) ↔ ReadsInside u v := by
  have hrefused : converted behind u v x = x ∧
      (convertValue (unitsInit behind) x u v).2 ≠ .none := by
    by_cases hunits : uDimless ≤ u ∨ uDimless ≤ v ∨ u >>> 4 ≠ v >>> 4
    · exact convertValue_of_incompatible h hunits
    · push Not at hunits
      obtain ⟨hu, hv, hgroups⟩ := hunits
      have hnan : (unitsInit behind u).isNan = true ∨ (unitsInit behind v).isNan = true := by
        rw [unitsInit_isNan (UInt32.not_le.mp hu), unitsInit_isNan (UInt32.not_le.mp hv)]
        by_contra hsome
        simp only [Option.isNone_iff_eq_none, not_or, ← Option.isSome_iff_ne_none] at hsome
        exact hgroup ⟨hsome.1, hsome.2, hgroups⟩
      rw [converted, convertValue_of_isNan h hnan]
      exact ⟨rfl, nofun⟩
  rw [← and_assoc, and_iff_right hrefused, Logged.All, convertValueRead_log h, ReadsInside]
  by_cases hu : u < uDimless
  · rw [unitsInit_isNan hu]
    cases (scaleOf u).isNone <;> simp [hu]
  · refine iff_of_false (fun hall => hu (hall u ?_)) fun hinside => hu hinside.1
    split_ifs <;> simp

/-- Conversions are coherent if and only if none of them passes the base by and, where there is
nothing to convert, both units are in the table. -/
theorem coherent_iff (behind : UnitsTable) (u v w : UInt32) (x : LREAL) :
    Coherent behind u v w x ↔ (SameGroup u v → AllDirect u v w x) ∧
      (IsConversion u v → ¬ SameGroup u v → ReadsInside u v) := by
  constructor
  · rintro ⟨hthrough, hback, hcompose, hrefused⟩
    refine ⟨fun h => ?_, fun h hgroup => (refused_iff h hgroup).mp (hrefused h hgroup)⟩
    have hdirect := (converted_eq_iff h).mp (hthrough h)
    have hy : converted behind u v x = (scale u).convert (scale v) x :=
      (converted_eq_iff h).mpr hdirect
    have hback' := (back_iff h).mp (hy ▸ hback h)
    exact ⟨hdirect, hback', fun h' =>
      (compose_iff h h' hdirect hback').mp (hy ▸ hcompose h h')⟩
  · rintro ⟨hdirect, hinside⟩
    refine ⟨fun h => (converted_eq_iff h).mpr (hdirect h).1, fun h => ?_, fun h h' => ?_,
      fun h hgroup => (refused_iff h hgroup).mpr (hinside h hgroup)⟩
    · rw [(converted_eq_iff h).mpr (hdirect h).1]
      exact (back_iff h).mpr (hdirect h).2.1
    · rw [(converted_eq_iff h).mpr (hdirect h).1]
      exact (compose_iff h h' (hdirect h).1 (hdirect h).2.1).mpr ((hdirect h).2.2 h')

/-- One hundred kilopascals are one bar; the conversion gives a thousand. -/
theorem coherent_fails : ∃ behind u v w x, ¬ Coherent behind u v w x := by
  refine ⟨fun _ => ⟨none, none⟩, 33, 35, 35, 100, fun h => ?_⟩
  have hthrough := h.through (by decide)
  revert hthrough
  rw [converted_of_sameGroup (by decide) (by decide), if_neg (by decide)]
  simp [scale, scaleOf, unitInits, Scale.fromBase, Scale.toBase]
  norm_num

end Units

end Tritonn
