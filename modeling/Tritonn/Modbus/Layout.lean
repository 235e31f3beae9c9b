import Tritonn.Modbus.Config

/-!
The register map of the Modbus server: whether every link sits where the configuration puts it.

* `Block.register` is the register of an item as it is configured, and `declared` the list of all
  variables with their registers;
* `coded` is the list that `checkVars` works out, with the begin that it takes for a block
  (`Block.start`) and the sizes of the native types (`checkVars_coded`);
* `LaidOut` is the property: the links sit at their configured registers, inside the registers and
  apart from each other;
* `laidOut_iff` says for which configurations that are accepted it holds (`Sound`);
* `laidOut_fails` is a block that begins with a whitespace.
-/

namespace Tritonn

variable (store : Store)

/-! ### The configured registers -/

/-- The registers of the native type of an item. -/
def TempLink.nativeRegs (t : TempLink) : ℕ :=
  if t.varName = "" then typeCountReg t.type
  else ((store.findVar t.varName).map fun v => typeCountReg v.type).getD 0

/-- The register size of an item: that of its convert type, if it has one. -/
def TempLink.regs (t : TempLink) : ℕ :=
  if t.type = .undef then t.nativeRegs store else typeCountReg t.type

/-- The register at which the item `k` of a block is configured. -/
def Block.register (b : Block) (k : ℕ) : ℕ :=
  b.begin + ((b.items.take k).map (TempLink.regs store)).sum

/-- The variables of a block with their configured registers. -/
def Block.declared (b : Block) : List (ℕ × TempLink) :=
  (b.items.zipIdx.filter fun p => p.1.varName ≠ "").map fun p => (b.register store p.2, p.1)

/-- The variables of a configuration with their registers. -/
def declared (blocks : List Block) : List (ℕ × TempLink) := blocks.flatMap (Block.declared store)

/-- The registers of a link. -/
def MapLink.regs (l : MapLink) : ℕ := typeCountReg l.type

/-- Two ranges of registers, each with its first register and its size, do not overlap. -/
def Apart (x y : ℕ × ℕ) : Prop := x.1 + x.2 ≤ y.1 ∨ y.1 + y.2 ≤ x.1

/-- What a link is to be: its register, its variable and the type its value is converted to. -/
def entry (e : ℕ × TempLink) : ℕ × Option Variable × VType :=
  (e.1, store.findVar e.2.varName, e.2.type)

/-- What a link is. -/
def MapLink.entry (l : MapLink) : ℕ × Option Variable × VType :=
  (l.address.toNat, some l.var, l.convert)

/-- The links of the blocks, which follow the `n` standard ones, sit where they are configured; all
links are inside the registers, and those of the blocks do not overlap. -/
structure LaidOut (n : ℕ) (blocks : List Block) (m : RegisterMap) : Prop where
  placed : (m.modbusLink.drop n).map MapLink.entry = (declared store blocks).map (entry store)
  inRange : ∀ l ∈ m.modbusLink, l.address.toNat + l.regs ≤ 65536
  apart : (m.modbusLink.drop n).Pairwise fun l l' =>
    Apart (l.address.toNat, l.regs) (l'.address.toNat, l'.regs)

/-! ### The registers that are worked out -/

/-- There is a variable among the items. -/
def HasVar (ts : List TempLink) : Prop := ∃ t ∈ ts, t.varName ≠ ""

/-- The variables of a list of items that are placed one after the other from `a` on. -/
def place (size : TempLink → ℕ) : ℕ → List TempLink → List (ℕ × TempLink)
  | _, [] => []
  | a, t :: ts =>
      if t.varName = "" then place size (a + size t) ts else (a, t) :: place size (a + size t) ts

/-- The register at which `checkVars` begins a block after the register `r`: the begin of the
block, if a variable carries it and it is not `0`. -/
def Block.start (b : Block) (r : ℕ) : ℕ :=
  match b.items with
  | [] => r
  | t :: _ => if t.varName ≠ "" ∧ b.begin ≠ 0 then b.begin else r

/-- The register after a block that begins after the register `r`, by the native sizes. -/
def Block.finish (b : Block) (r : ℕ) : ℕ :=
  b.start r + (b.items.map (TempLink.nativeRegs store)).sum

/-- The variables of the blocks from the register `r` on, as `checkVars` places them. -/
def coded : ℕ → List Block → List (ℕ × TempLink)
  | _, [] => []
  | r, b :: bs =>
      place (TempLink.nativeRegs store) (b.start r) b.items ++ coded (b.finish store r) bs

/-! ### The condition -/

/-- Every item that a variable follows has a convert type, if it has one, of its native size. -/
def Consistent (ts : List TempLink) : Prop :=
  ∀ pre t post, ts = pre ++ t :: post → HasVar post → t.nativeRegs store = t.regs store

/-- Every block with a variable begins where it is configured to: a variable carries a begin other
than `400000`, or the items before it end there by their native sizes; and its convert types leave
the later variables in their places. -/
def Aligned : ℕ → List Block → Prop
  | _, [] => True
  | r, b :: bs =>
      (HasVar b.items → b.start r = b.begin) ∧ Consistent store b.items ∧
        Aligned (b.finish store r) bs

/-- The condition on a configuration: the blocks are aligned, and the configured ranges of the
variables are inside the registers and apart from each other. -/
structure Sound (blocks : List Block) : Prop where
  aligned : Aligned store 0 blocks
  fits : ∀ e ∈ declared store blocks, e.1 + e.2.regs store ≤ 65536
  apart : (declared store blocks).Pairwise fun e e' =>
    Apart (e.1, e.2.regs store) (e'.1, e'.2.regs store)

variable {store}

/-! ### Placing items -/

@[simp] lemma hasVar_nil : ¬ HasVar [] := by simp [HasVar]

lemma hasVar_cons {t : TempLink} {ts : List TempLink} :
    HasVar (t :: ts) ↔ t.varName ≠ "" ∨ HasVar ts := by simp [HasVar]

lemma place_varName {size : TempLink → ℕ} {a : ℕ} {ts : List TempLink} :
    ∀ e ∈ place size a ts, e.2.varName ≠ "" := by
  induction ts generalizing a with
  | nil => simp [place]
  | cons t ts ih =>
      rw [place]
      split_ifs with ht
      · exact ih
      · exact List.forall_mem_cons.mpr ⟨ht, ih⟩

lemma place_length {size size' : TempLink → ℕ} {a a' : ℕ} {ts : List TempLink} :
    (place size a ts).length = (place size' a' ts).length := by
  induction ts generalizing a a' with
  | nil => rfl
  | cons t ts ih =>
      rw [place, place]
      split_ifs with ht
      · exact ih
      · simp only [List.length_cons, @ih _ (a' + size' t)]

lemma consistent_cons {t : TempLink} {ts : List TempLink} :
    Consistent store (t :: ts) ↔
      (HasVar ts → t.nativeRegs store = t.regs store) ∧ Consistent store ts := by
  constructor
  · intro h
    exact ⟨h [] t ts rfl, fun pre t' post hts => h (t :: pre) t' post (by rw [hts]; rfl)⟩
  · rintro ⟨h0, h⟩ pre t' post hts
    cases pre with
    | nil => cases hts; exact h0
    | cons t'' pre =>
        rw [List.cons_append, List.cons.injEq] at hts
        exact h pre t' post hts.2

variable (store) in
/-- A whitespace has the size of its type, whichever way it is counted. -/
lemma nativeRegs_whitespace {t : TempLink} (h : t.varName = "") :
    t.nativeRegs store = t.regs store := by
  rw [TempLink.regs, TempLink.nativeRegs, if_pos h]
  split_ifs <;> rfl

/-- Items that are placed by their native sizes are where they are configured if and only if they
begin there and no convert type moves a later one. -/
lemma place_eq_iff {a b : ℕ} {ts : List TempLink} :
    (place (TempLink.nativeRegs store) a ts).map (entry store)
        = (place (TempLink.regs store) b ts).map (entry store) ↔
      (HasVar ts → a = b) ∧ Consistent store ts := by
  induction ts generalizing a b with
  | nil => simp [place, Consistent]
  | cons t ts ih =>
      rw [place, place, consistent_cons, hasVar_cons]
      by_cases ht : t.varName = ""
      · have hsize := nativeRegs_whitespace store ht
        rw [if_pos ht, if_pos ht, ih, hsize]
        simp [ht]
      · rw [if_neg ht, if_neg ht, List.map_cons, List.map_cons, List.cons.injEq, ih]
        simp only [entry, Prod.mk.injEq, and_true, ht, not_false_eq_true, ne_eq, true_or,
          forall_true_left]
        constructor
        · rintro ⟨rfl, h, hc⟩
          exact ⟨rfl, fun hv => Nat.add_left_cancel (h hv), hc⟩
        · rintro ⟨rfl, h, hc⟩
          exact ⟨rfl, fun hv => by rw [h hv], hc⟩

/-- The configured registers of a block are its items placed by their register sizes. -/
lemma declared_eq_place (b : Block) :
    b.declared store = place (TempLink.regs store) b.begin b.items := by
  suffices h : ∀ pre ts, b.items = pre ++ ts →
      ((ts.zipIdx pre.length).filter fun p => p.1.varName ≠ "").map
          (fun p => (b.register store p.2, p.1))
        = place (TempLink.regs store) (b.register store pre.length) ts by
    have h0 : b.register store 0 = b.begin := by simp [Block.register]
    have := h [] b.items rfl
    rwa [List.length_nil, h0] at this
  intro pre ts hts
  induction ts generalizing pre with
  | nil => rfl
  | cons t ts ih =>
      have hnext : b.register store (pre.length + 1)
          = b.register store pre.length + t.regs store := by
        rw [Block.register, Block.register, hts, List.take_left, List.take_append,
          List.take_of_length_le (Nat.le_succ _)]
        simp [Nat.add_assoc]
      have ih := ih (pre ++ [t]) (by rw [hts, List.append_assoc]; rfl)
      rw [List.length_append, List.length_singleton, hnext] at ih
      rw [List.zipIdx_cons, place, List.filter_cons]
      by_cases ht : t.varName = ""
      · simpa [ht] using ih
      · simpa [ht] using ih

lemma declared_cons (b : Block) (bs : List Block) :
    declared store (b :: bs)
      = place (TempLink.regs store) b.begin b.items ++ declared store bs := by
  rw [declared, List.flatMap_cons, declared_eq_place, ← declared]

lemma declared_varName {blocks : List Block} : ∀ e ∈ declared store blocks, e.2.varName ≠ "" := by
  induction blocks with
  | nil => simp [declared]
  | cons b bs ih =>
      rw [declared_cons]
      exact List.forall_mem_append.mpr ⟨place_varName, ih⟩

/-- The registers that are worked out are the configured ones if and only if the blocks are
aligned. -/
lemma coded_eq_iff {r : ℕ} {blocks : List Block} :
    (coded store r blocks).map (entry store) = (declared store blocks).map (entry store) ↔
      Aligned store r blocks := by
  induction blocks generalizing r with
  | nil => simp [coded, declared, Aligned]
  | cons b bs ih =>
      rw [coded, declared_cons, Aligned, List.map_append, List.map_append, ← ih, ← and_assoc,
        ← place_eq_iff]
      constructor
      · intro h
        exact List.append_inj h (by rw [List.length_map, List.length_map, place_length])
      · rintro ⟨h1, h2⟩
        rw [h1, h2]

/-! ### The walk of checkVars -/

lemma advance_ok {type : VType} {m m' : RegisterMap} (h : advance type m = .ok m') :
    m.address + typeCountReg type < 65536 ∧
      m' = { m with address := m.address + typeCountReg type } := by
  rw [advance] at h
  split_ifs at h with hle
  cases h
  exact ⟨by omega, rfl⟩

/-- What one turn of the loop of `checkVars` does to an item: it is placed at the address that it
carries, if it is a variable and the address is not `0`, and else after the item before it. -/
lemma checkVarsStep_ok {m m' : RegisterMap} {t : TempLink}
    (h : checkVarsStep store m t = .ok m') :
    ∃ a, a = (if t.varName ≠ "" ∧ t.address ≠ 0 then t.address else m.address) ∧
      m'.address = a + t.nativeRegs store ∧
      ∃ links, m'.modbusLink = m.modbusLink ++ links ∧
        links.map MapLink.entry = (place (TempLink.nativeRegs store) a [t]).map (entry store) := by
  rw [checkVarsStep] at h
  refine ⟨_, rfl, ?_⟩
  by_cases ht : t.varName = ""
  · rw [if_neg (by simpa using ht)] at h
    obtain ⟨-, rfl⟩ := advance_ok h
    refine ⟨by simp [ht, TempLink.nativeRegs], [], by simp, ?_⟩
    simp [place, ht]
  · rw [if_pos ht] at h
    cases hf : store.findVar t.varName with
    | none => simp [hf] at h
    | some v =>
        simp only [hf] at h
        simp only [ht, ne_eq, not_false_eq_true, true_and]
        generalize (if ¬ t.address = 0 then t.address else m.address) = a at h ⊢
        obtain ⟨hlt, rfl⟩ := advance_ok h
        -- The address fits into the sixteen bits of the link.
        have hto : (UInt16.ofNat a).toNat = a :=
          UInt16.toNat_ofNat_of_lt' (Nat.lt_of_le_of_lt (Nat.le_add_right _ _) hlt)
        refine ⟨by simp [ht, TempLink.nativeRegs, hf], _, rfl, ?_⟩
        simp [place, ht, MapLink.entry, entry, hf, hto]

/-- The items that carry no address follow each other. -/
lemma foldlM_unmarked {ts : List TempLink} (hts : ∀ t ∈ ts, t.address = 0) {m m' : RegisterMap}
    (h : ts.foldlM (checkVarsStep store) m = .ok m') :
    m'.address = m.address + (ts.map (TempLink.nativeRegs store)).sum ∧
      ∃ links, m'.modbusLink = m.modbusLink ++ links ∧
        links.map MapLink.entry
          = (place (TempLink.nativeRegs store) m.address ts).map (entry store) := by
  induction ts generalizing m with
  | nil =>
      cases h
      exact ⟨by simp, [], by simp, rfl⟩
  | cons t ts ih =>
      rw [List.foldlM_cons] at h
      obtain ⟨m₁, h1, h⟩ := Result.bind_eq_ok.mp h
      obtain ⟨ht, hts⟩ := List.forall_mem_cons.mp hts
      obtain ⟨a, ha, haddr, links, hlinks, hentry⟩ := checkVarsStep_ok h1
      rw [if_neg (by simp [ht])] at ha
      subst ha
      obtain ⟨haddr', links', hlinks', hentry'⟩ := ih hts h
      refine ⟨by rw [haddr', haddr]; simp [Nat.add_assoc], links ++ links', ?_, ?_⟩
      · rw [hlinks', hlinks, List.append_assoc]
      · rw [List.map_append, hentry, hentry', haddr, ← List.map_append]
        congr 1
        rw [place, place, place]
        split_ifs <;> rfl

/-- A block is placed from the register that `Block.start` gives. -/
lemma foldlM_block {b : Block} (hb : b.Marked) {m m' : RegisterMap}
    (h : b.items.foldlM (checkVarsStep store) m = .ok m') :
    m'.address = b.finish store m.address ∧
      ∃ links, m'.modbusLink = m.modbusLink ++ links ∧
        links.map MapLink.entry
          = (place (TempLink.nativeRegs store) (b.start m.address) b.items).map (entry store) := by
  cases hi : b.items with
  | nil =>
      rw [hi] at h
      cases h
      exact ⟨by simp [Block.finish, Block.start, hi], [], by simp, rfl⟩
  | cons t ts =>
      obtain ⟨ht, hts⟩ := hb.head t ts hi
      rw [hi, List.foldlM_cons] at h
      obtain ⟨m₁, h1, h⟩ := Result.bind_eq_ok.mp h
      obtain ⟨a, ha, haddr, links, hlinks, hentry⟩ := checkVarsStep_ok h1
      obtain ⟨haddr', links', hlinks', hentry'⟩ := foldlM_unmarked hts h
      have hstart : b.start m.address = a := by
        rw [Block.start, hi, ha, ht]
      refine ⟨?_, links ++ links', ?_, ?_⟩
      · rw [haddr', haddr, Block.finish, hstart, hi]
        simp [Nat.add_assoc]
      · rw [hlinks', hlinks, List.append_assoc]
      · rw [hstart, List.map_append, hentry, hentry', haddr, ← List.map_append]
        congr 1
        rw [place, place, place]
        split_ifs <;> rfl

/-- `checkVars` places the variables of all blocks at the registers of `coded`. -/
lemma foldlM_blocks {blocks : List Block} (hb : ∀ b ∈ blocks, b.Marked) {m m' : RegisterMap}
    (h : (blocks.flatMap Block.items).foldlM (checkVarsStep store) m = .ok m') :
    ∃ links, m'.modbusLink = m.modbusLink ++ links ∧
      links.map MapLink.entry = (coded store m.address blocks).map (entry store) := by
  induction blocks generalizing m with
  | nil =>
      cases h
      exact ⟨[], by simp, rfl⟩
  | cons b bs ih =>
      rw [List.flatMap_cons, List.foldlM_append] at h
      obtain ⟨m₁, h1, h⟩ := Result.bind_eq_ok.mp h
      obtain ⟨hb, hbs⟩ := List.forall_mem_cons.mp hb
      obtain ⟨haddr, links, hlinks, hentry⟩ := foldlM_block hb h1
      obtain ⟨links', hlinks', hentry'⟩ := ih hbs h
      refine ⟨links ++ links', by rw [hlinks', hlinks, List.append_assoc], ?_⟩
      rw [coded, List.map_append, List.map_append, hentry, hentry', haddr]

/-! ### The standard links -/

lemma mem_of_findVar {name : String} {v : Variable} (h : store.findVar name = some v) :
    v ∈ store.vars := List.mem_of_find?_eq_some h

lemma typeCountReg_le {type : VType} (h : type ≠ .undef) : typeCountReg type ≤ 4 := by
  cases type with
  | undef => exact absurd rfl h
  | _ => decide

/-- The standard links follow each other, one for every element of the file, and begin in the first
hundred registers. -/
lemma loadStandartModbus_ok {items : List StdItem} {m m' : RegisterMap}
    (h : loadStandartModbus store items m = .ok m') :
    m'.address = m.address ∧ ∃ links, m'.modbusLink = m.modbusLink ++ links ∧
      links.length = items.length ∧
      ∀ l ∈ links, l.address.toNat ≤ 100 ∧ l.var ∈ store.vars ∧ l.convert = .undef := by
  induction items generalizing m with
  | nil =>
      cases h
      exact ⟨rfl, [], by simp, rfl, by simp⟩
  | cons i items ih =>
      rw [loadStandartModbus, List.foldlM_cons] at h
      obtain ⟨m₁, h1, h⟩ := Result.bind_eq_ok.mp h
      obtain ⟨haddr, links, hlinks, hlen, hl⟩ := ih h
      rw [loadStandartItem] at h1
      split_ifs at h1 with h100
      cases hf : store.findVar i.name with
      | none => simp [hf] at h1
      | some v =>
          simp only [hf] at h1
          cases h1
          refine ⟨haddr, _ :: links, by rw [hlinks, List.append_assoc]; rfl, by simp [hlen], ?_⟩
          refine List.forall_mem_cons.mpr ⟨⟨?_, mem_of_findVar hf, rfl⟩, hl⟩
          exact UInt16.le_iff_toNat_le.mp (UInt16.not_lt.mp h100)

/-! ### The layout -/

/-- The registers of an entry. -/
def entryRegs (e : ℕ × Option Variable × VType) : ℕ :=
  if e.2.2 = .undef then (e.2.1.map fun v => typeCountReg v.type).getD 0 else typeCountReg e.2.2

lemma entryRegs_link (l : MapLink) : entryRegs l.entry = l.regs := by
  rw [MapLink.regs, MapLink.type, apply_ite typeCountReg]
  rfl

lemma entryRegs_declared {blocks : List Block} {e : ℕ × TempLink}
    (he : e ∈ declared store blocks) : entryRegs (entry store e) = e.2.regs store := by
  rw [TempLink.regs, TempLink.nativeRegs, if_neg (declared_varName e he)]
  rfl

/-- Links that sit where they are configured are inside the registers if and only if the configured
ranges are. -/
lemma inRange_iff {links : List MapLink} {blocks : List Block}
    (h : links.map MapLink.entry = (declared store blocks).map (entry store)) :
    (∀ l ∈ links, l.address.toNat + l.regs ≤ 65536) ↔
      ∀ e ∈ declared store blocks, e.1 + e.2.regs store ≤ 65536 := by
  have hl : (∀ l ∈ links, l.address.toNat + l.regs ≤ 65536) ↔
      ∀ x ∈ links.map MapLink.entry, x.1 + entryRegs x ≤ 65536 := by
    simp only [List.forall_mem_map, entryRegs_link]
    rfl
  rw [hl, h, List.forall_mem_map]
  refine forall₂_congr fun e he => ?_
  rw [entryRegs_declared he, entry]

/-- Links that sit where they are configured do not overlap if and only if the configured ranges do
not. -/
lemma apart_iff {links : List MapLink} {blocks : List Block}
    (h : links.map MapLink.entry = (declared store blocks).map (entry store)) :
    (links.Pairwise fun l l' => Apart (l.address.toNat, l.regs) (l'.address.toNat, l'.regs)) ↔
      (declared store blocks).Pairwise fun e e' =>
        Apart (e.1, e.2.regs store) (e'.1, e'.2.regs store) := by
  let apart := fun x y : ℕ × Option Variable × VType => Apart (x.1, entryRegs x) (y.1, entryRegs y)
  have hl : (links.Pairwise fun l l' =>
      Apart (l.address.toNat, l.regs) (l'.address.toNat, l'.regs)) ↔
      (links.map MapLink.entry).Pairwise apart := by
    simp only [apart, List.pairwise_map, entryRegs_link]
    rfl
  rw [hl, h, List.pairwise_map]
  refine List.Pairwise.iff_of_mem fun {e e'} he he' => ?_
  simp only [apart, entryRegs_declared he, entryRegs_declared he']
  rfl

/-- For every accepted configuration, the links sit where they are configured, inside the registers
and apart from each other, if and only if every block begins where it is configured to and the
convert types leave the later variables in their places, and the configured ranges are inside the
registers and do not overlap. -/
theorem laidOut_iff (htyped : ∀ v ∈ store.vars, v.type ≠ .undef)
    {find : String → Option (List Element)} {line : ℕ} {adrmap : List AddressBlock}
    {blocks : List Block} (hload : loadFromXML find line adrmap = .ok blocks)
    {standart : List StdItem} {m : RegisterMap}
    (hcheck : checkVars store standart (blocks.flatMap Block.items) = .ok m) :
    LaidOut store standart.length blocks m ↔ Sound store blocks := by
  obtain ⟨m₁, h1, h⟩ := checkVars_ok hcheck
  obtain ⟨haddr, stdlinks, hstd, hlen, hstdl⟩ := loadStandartModbus_ok h1
  obtain ⟨links, hlinks, hentry⟩ := foldlM_blocks (loadFromXML_marked hload) h
  rw [haddr] at hentry
  have hm : m.modbusLink = stdlinks ++ links := by rw [hlinks, hstd]; rfl
  have hdrop : m.modbusLink.drop standart.length = links := by rw [hm, ← hlen, List.drop_left]
  -- The standard links are inside the registers, whatever the blocks are.
  have hstdr : ∀ l ∈ stdlinks, l.address.toNat + l.regs ≤ 65536 := by
    intro l hl
    obtain ⟨h100, hv, hc⟩ := hstdl l hl
    have h4 := typeCountReg_le (htyped l.var hv)
    rw [MapLink.regs, MapLink.type, if_pos hc]
    omega
  have hplaced : (m.modbusLink.drop standart.length).map MapLink.entry
      = (declared store blocks).map (entry store) ↔ Aligned store 0 blocks := by
    rw [hdrop, hentry]
    exact coded_eq_iff
  constructor
  · intro hlaid
    have hp := hlaid.placed
    refine ⟨hplaced.mp hp, (inRange_iff hp).mp fun l hl => hlaid.inRange l ?_,
      (apart_iff hp).mp hlaid.apart⟩
    exact List.mem_of_mem_drop hl
  · intro hsound
    have hp := hplaced.mpr hsound.aligned
    refine ⟨hp, fun l hl => ?_, (apart_iff hp).mpr hsound.apart⟩
    rw [hm, List.mem_append] at hl
    rcases hl with hl | hl
    · exact hstdr l hl
    · exact (inRange_iff hp).mpr hsound.fits l (hdrop ▸ hl)

/-! ### A block that begins with a whitespace -/

/-- A store with one variable of sixteen bits. -/
def oneUint : Store :=
  ⟨[⟨"a", .uint, 0, 0⟩], fun _ => [0, 0], fun _ => [], fun _ => false, false⟩

lemma oneUint_findVar : oneUint.findVar "a" = some ⟨"a", .uint, 0, 0⟩ := by decide +kernel

/-- A data block of a whitespace and a variable after it. -/
def spaced : String → Option (List Element)
  | "spaced" => some [⟨5, "whitespace", none, "", "uint"⟩, ⟨6, "variable", some "a", "", ""⟩]
  | _ => none

/-- The block at the register `10`. -/
def spacedBlocks : List Block := [⟨10, [⟨"", 10, 5, .uint⟩, ⟨"a", 0, 6, .undef⟩]⟩]

/-- The map of the block: the variable is at the register `1`. -/
def spacedMap : RegisterMap :=
  ⟨2, ⟨[⟨some ⟨"a", .uint, 0, 0⟩, .toassign, []⟩], 0⟩, [⟨⟨1, ⟨"a", .uint, 0, 0⟩⟩, 0, .undef⟩]⟩

lemma spaced_load :
    loadFromXML spaced 1 [⟨2, 400010, some "spaced"⟩] = .ok spacedBlocks := by rfl

lemma spaced_check :
    checkVars oneUint [] (spacedBlocks.flatMap Block.items) = .ok spacedMap := by
  simp [checkVars, checkVarsStep, loadStandartModbus, spacedBlocks, advance, typeCountReg,
    oneUint_findVar, Result.ok_bind, Result.pure_eq_ok, Snapshot.addVar, Snapshot.add, spacedMap]

/-- The begin of a block is lost when a whitespace carries it. -/
theorem laidOut_fails :
    loadFromXML spaced 1 [⟨2, 400010, some "spaced"⟩] = .ok spacedBlocks ∧
      checkVars oneUint [] (spacedBlocks.flatMap Block.items) = .ok spacedMap ∧
      ¬ LaidOut oneUint 0 spacedBlocks spacedMap := by
  refine ⟨spaced_load, spaced_check, fun h => ?_⟩
  have hp := h.placed
  simp [spacedMap, spacedBlocks, declared, Block.declared, Block.register, MapLink.entry, entry,
    TempLink.regs, typeCountReg] at hp

/-- The same block, by `laidOut_iff`. -/
theorem laidOut_iff_spaced :
    LaidOut oneUint 0 spacedBlocks spacedMap ↔ Sound oneUint spacedBlocks :=
  laidOut_iff (by decide) spaced_load spaced_check

end Tritonn
