import Tritonn.Data.Config
import Tritonn.Data.Source

/-!
The links of a configuration that was loaded: `rDataConfig::ResolveLinks` and `getSource`, with
`rSource::checkOutput`, and the scans that follow.

* `DataConfig.resolveLinks` connects the links of `ListLink` one by one; `resolveLinks_eq` says in
  one line what it does: it stops at the first link that `getSource` finds nothing for, and connects
  all of them when there is none;
* `DataConfig.sources` are the sources for the scan, with the links as they are then;
* `loadConfig_ids` says that the sources of a kind have numbers of their own below the bound of the
  kind, and `resolveLinks_scan` that no link misses a value in any scan once the links are resolved,
  but for one case: a link without a parameter to a source without outputs, which is not refused.
-/

namespace Tritonn

/-- The link is an output. -/
def LinkSlot.isOutput (l : LinkSlot) : Bool := l.setup &&& linkOutput ≠ 0

/-- `rSource::checkOutput`. -/
def ConfSource.checkOutput (s : ConfSource) (name : String) : Bool :=
  faultName = name.toLower || s.links.any fun l => l.isOutput && name.toLower = l.ioName

namespace DataConfig

/-- `rDataConfig::getSource`: only the first source with the alias counts. -/
def getSource (c : DataConfig) (mAlias param : String) : Option ConfSource :=
  match c.listSource.find? fun s => mAlias.toLower = s.mAlias with
  | none => none
  | some s => if param ≠ "" then if s.checkOutput param then some s else none else some s

/-- The source that is found for a link. -/
def found (c : DataConfig) (key : ℕ × ℕ) : Option ConfSource :=
  c.getSource (c.link key).mAlias (c.link key).param

/-- A turn of the loop of `rDataConfig::ResolveLinks`. A link that has got a source is valid. -/
def resolveLink (c : DataConfig) (key : ℕ × ℕ) : Except ConfigStop DataConfig :=
  match c.found key with
  | none => .error (.error ⟨.checkLink, (c.link key).lineNum, (c.link key).fullTag⟩)
  | some src => .ok (c.setLink key fun l => { l with source := some src.object })

/-- `rDataConfig::ResolveLinks`. -/
def resolveLinks (c : DataConfig) : Except ConfigStop DataConfig := c.listLink.foldlM resolveLink c

/-! ### What is connected -/

/-- The links of a list are connected to what is found for them. -/
def connect (c : DataConfig) (l : List (ℕ × ℕ)) : DataConfig :=
  { c with link := fun key =>
      if key ∈ l then { c.link key with source := (c.found key).map ConfSource.object }
      else c.link key }

lemma found_setLink (c : DataConfig) (key key' : ℕ × ℕ) (source : Option ℕ) :
    (c.setLink key fun l => { l with source }).found key' = c.found key' := by
  by_cases hkey : key' = key
  · rw [hkey, found, setLink_self]
    rfl
  · rw [found, setLink_of_ne hkey]
    rfl

/-- A link that is connected first may be connected with the others. -/
lemma connect_setLink (c : DataConfig) {key : ℕ × ℕ} {src : ConfSource}
    (h : c.found key = some src) (l : List (ℕ × ℕ)) :
    (c.setLink key fun l => { l with source := some src.object }).connect l =
      c.connect (key :: l) := by
  have hlink : ((c.setLink key fun l => { l with source := some src.object }).connect l).link =
      (c.connect (key :: l)).link := by
    funext k
    simp only [connect, found_setLink, List.mem_cons]
    by_cases hk : k = key
    · rw [hk, setLink_self, h]
      simp
    · rw [setLink_of_ne hk]
      simp only [hk, false_or]
  rw [connect, connect] at hlink ⊢
  rw [DataConfig.mk.injEq]
  exact ⟨rfl, rfl, hlink, rfl, rfl⟩

lemma foldlM_resolveLink (c : DataConfig) (l : List (ℕ × ℕ)) :
    l.foldlM resolveLink c = match l.find? fun key => (c.found key).isNone with
      | none => .ok (c.connect l)
      | some key => .error (.error ⟨.checkLink, (c.link key).lineNum, (c.link key).fullTag⟩) := by
  induction l generalizing c with
  | nil => rfl
  | cons key l ih =>
      rw [List.foldlM_cons, resolveLink]
      cases h : c.found key with
      | none => rw [List.find?_cons_of_pos (by rw [h]; rfl), Result.error_bind]
      | some src =>
          rw [List.find?_cons_of_neg (by rw [h]; simp), Result.ok_bind, ih]
          simp only [found_setLink, connect_setLink c h]
          cases hfind : l.find? fun key => (c.found key).isNone with
          | none => rfl
          | some key' =>
              have hne : key' ≠ key := by
                rintro rfl
                simpa [h] using List.find?_some hfind
              simp only [setLink_of_ne hne]

/-- `ResolveLinks` ends at the first link for which nothing is found, with its line and its tag, and
connects every link otherwise. -/
theorem resolveLinks_eq (c : DataConfig) :
    c.resolveLinks = match c.listLink.find? fun key => (c.found key).isNone with
      | none => .ok (c.connect c.listLink)
      | some key => .error (.error ⟨.checkLink, (c.link key).lineNum, (c.link key).fullTag⟩) :=
  foldlM_resolveLink c c.listLink

/-- What is found is the first source with the alias, and has the output that is asked for. -/
lemma getSource_eq_some {c : DataConfig} {mAlias param : String} {s : ConfSource}
    (h : c.getSource mAlias param = some s) :
    (c.listSource.find? fun s => mAlias.toLower = s.mAlias) = some s ∧
      (param = "" ∨ s.checkOutput param = true) := by
  rw [getSource] at h
  cases hfind : c.listSource.find? fun s => mAlias.toLower = s.mAlias with
  | none =>
      rw [hfind] at h
      cases h
  | some s' =>
      rw [hfind] at h
      dsimp only at h
      split_ifs at h with hparam hcheck
      · cases h
        exact ⟨rfl, .inr hcheck⟩
      · cases h
        exact ⟨rfl, .inl (not_not.mp hparam)⟩

/-! ### The sources of a scan -/

/-- A link of a source as a scan sees it. -/
def linkInfo (c : DataConfig) (s : ConfSource) (i : ℕ) : LinkInfo ℕ where
  source := (c.link (s.object, i)).source
  param := (c.link (s.object, i)).param
  ioName := (s.links.getD i ⟨"", 0⟩).ioName
  setup := (s.links.getD i ⟨"", 0⟩).setup

/-- The source of an object as a scan sees it, with what its class adds to `rSource::calculate`. -/
def sourceInfo {κ : Type*} (c : DataConfig) (kernel : ℕ → SourceBody ℕ κ) (object : ℕ) :
    SourceInfo ℕ κ :=
  match c.listSource.find? fun s => s.object = object with
  | none => ⟨0, fun _ => ⟨none, "", "", 0⟩, kernel object⟩
  | some s => ⟨s.links.length, c.linkInfo s, kernel object⟩

/-- The sources of a configuration. -/
def sources {κ : Type*} (c : DataConfig) (table : UnitsTable) (kernel : ℕ → SourceBody ℕ κ) :
    Sources ℕ κ := ⟨table, c.sourceInfo kernel⟩

variable {κ : Type*} {c : DataConfig} {kernel : ℕ → SourceBody ℕ κ}

/-- The source of an object, if the objects of the sources differ. -/
lemma sourceInfo_eq (hnodup : (c.listSource.map ConfSource.object).Nodup) {s : ConfSource}
    (hs : s ∈ c.listSource) :
    c.sourceInfo kernel s.object = ⟨s.links.length, c.linkInfo s, kernel s.object⟩ := by
  have hfind : (c.listSource.find? fun s' => s'.object = s.object) = some s := by
    cases hfind : c.listSource.find? fun s' => s'.object = s.object with
    | none => exact absurd (List.find?_eq_none.mp hfind s hs) (by simp)
    | some s' =>
        have heq : s'.object = s.object := by simpa using List.find?_some hfind
        rw [List.inj_on_of_nodup_map hnodup (List.mem_of_find?_eq_some hfind) hs heq]
  rw [sourceInfo, hfind]

/-- A link that a scan reads is the one of a source of the list. -/
lemma reads_sourceInfo {object i u : ℕ} (h : ((c.sourceInfo kernel object).link i).reads = some u) :
    (c.link (object, i)).source = some u ∧
      ((c.sourceInfo kernel object).link i).param = (c.link (object, i)).param := by
  rw [LinkInfo.reads] at h
  split_ifs at h
  rw [sourceInfo] at h ⊢
  cases hfind : c.listSource.find? fun s => s.object = object with
  | none =>
      rw [hfind] at h
      cases h
  | some s =>
      rw [hfind] at h
      have hobject : s.object = object := by simpa using List.find?_some hfind
      simp only [linkInfo, hobject] at h ⊢
      exact ⟨h, trivial⟩

lemma sourceInfo_kernel (object : ℕ) : (c.sourceInfo kernel object).kernel = kernel object := by
  unfold sourceInfo
  split <;> rfl

/-- The value that is asked for is there: the fault, or an output. -/
def Gives (S : Sources ℕ κ) (u : ℕ) (name : String) : Prop :=
  name = faultName ∨ ((S.info u).getOutputByName name).isSome

/-- An output that was found is found by its name. -/
lemma getOutputByName_isSome {info : SourceInfo ℕ κ} {name : String} (hname : name ≠ "")
    (h : ∃ i ∈ info.outputs, name = (info.link i).ioName) : (info.getOutputByName name).isSome := by
  obtain ⟨i, hi, hio⟩ := h
  rw [SourceInfo.getOutputByName, if_neg (by
    rw [List.isEmpty_iff]
    exact List.ne_nil_of_mem hi), if_neg hname, List.find?_isSome]
  exact ⟨i, hi, by simpa using hio⟩

/-- A source with outputs has the first one. -/
lemma getOutputByName_first {info : SourceInfo ℕ κ} (h : info.outputs ≠ []) :
    (info.getOutputByName "").isSome := by
  obtain ⟨i, outputs, hout⟩ := List.exists_cons_of_ne_nil h
  rw [SourceInfo.getOutputByName, if_neg (by rwa [List.isEmpty_iff]), if_pos rfl, hout]
  rfl

/-- What `checkOutput` accepts of a text in lower case is given. -/
lemma gives_of_checkOutput (hnodup : (c.listSource.map ConfSource.object).Nodup)
    {table : UnitsTable} {s : ConfSource} (hs : s ∈ c.listSource) {param : String}
    (hlower : param.toLower = param) (hparam : param ≠ "") (hcheck : s.checkOutput param = true) :
    Gives (c.sources table kernel) s.object param := by
  rw [ConfSource.checkOutput, hlower, Bool.or_eq_true, decide_eq_true_iff, List.any_eq_true]
    at hcheck
  rcases hcheck with hfault | ⟨l, hl, hout⟩
  · exact .inl hfault.symm
  · obtain ⟨i, hi, rfl⟩ := List.getElem_of_mem hl
    rw [Bool.and_eq_true, decide_eq_true_iff] at hout
    have hinfo : (c.sources table kernel).info s.object =
        ⟨s.links.length, c.linkInfo s, kernel s.object⟩ := sourceInfo_eq hnodup hs
    refine .inr (getOutputByName_isSome hparam ⟨i, ?_, ?_⟩)
    · rw [hinfo, SourceInfo.outputs, List.mem_filter, List.mem_range]
      refine ⟨hi, ?_⟩
      simp only [linkInfo, List.getD_eq_getElem _ _ hi]
      exact hout.1
    · rw [hinfo]
      simp only [linkInfo, List.getD_eq_getElem _ _ hi]
      exact hout.2

end DataConfig

/-- What is asked while a source is computed: by its inputs or by what its class adds. -/
lemma SourceInfo.asks_calculate {ι κ : Type*} (info : SourceInfo ι κ) {u : ι} {t : String × UInt32}
    (h : info.calculate.Asks u t) :
    (∃ i, (info.link i).reads = some u ∧ (info.link i).param = t.1) ∨ info.kernel.Asks u t := by
  suffices hfold : ∀ l : List ℕ, (l.foldr info.linkCalculate info.kernel).Asks u t →
      (∃ i, (info.link i).reads = some u ∧ (info.link i).param = t.1) ∨ info.kernel.Asks u t from
    hfold info.inputs h.choose_spec
  clear h
  intro l
  induction l with
  | nil => exact .inr
  | cons i l ih =>
      intro h
      rw [List.foldr_cons, linkCalculate_eq] at h
      cases hr : (info.link i).reads with
      | none =>
          rw [hr] at h
          exact ih h
      | some v =>
          rw [hr] at h
          obtain ⟨_, ⟨rfl, rfl⟩ | ⟨_, _, h⟩⟩ := h
          · exact .inl ⟨i, hr, rfl⟩
          · exact ih h

lemma Sources.preCalculate_log {ι κ : Type*} [DecidableEq ι] (l : List ι)
    (w : Demand.World ι (SourceState κ) (String × UInt32) SourceValue) :
    (Sources.preCalculate l w).log = w.log := by
  induction l generalizing w with
  | nil => rfl
  | cons v l ih => exact ih _

namespace DataConfig

/-- Links that were not connected have no source. -/
lemma connect_source {c : DataConfig} {l : List (ℕ × ℕ)} {key : ℕ × ℕ} {u : ℕ}
    (hnone : (c.link key).source = none) (h : ((c.connect l).link key).source = some u) :
    ∃ s, c.found key = some s ∧ s.object = u := by
  simp only [connect] at h
  split_ifs at h
  · exact Option.map_eq_some_iff.mp h
  · rw [hnone] at h
    cases h

lemma connect_texts (c : DataConfig) (l : List (ℕ × ℕ)) (key : ℕ × ℕ) :
    ((c.connect l).link key).mAlias = (c.link key).mAlias ∧
      ((c.connect l).link key).param = (c.link key).param := by
  simp only [connect]
  split_ifs <;> exact ⟨rfl, rfl⟩

/-- What a source asks for once the links are connected. -/
lemma connect_asks {κ : Type*} {c : DataConfig} (hinv : c.Inv []) {table : UnitsTable}
    {kernel : ℕ → SourceBody ℕ κ} {l : List (ℕ × ℕ)} {v u : ℕ} {t : String × UInt32}
    (h : ((((c.connect l).sources table kernel).info v).calculate).Asks u t) :
    (kernel v).Asks u t ∨ Gives ((c.connect l).sources table kernel) u t.1 ∨
      (t.1 = "" ∧ (((c.connect l).sources table kernel).info u).outputs = []) := by
  rcases SourceInfo.asks_calculate _ h with ⟨i, hreads, hparam⟩ | hkernel
  · obtain ⟨hsource, htext⟩ := reads_sourceInfo hreads
    have hparam' : (c.link (v, i)).param = t.1 := by
      rw [← hparam, ← (connect_texts c l (v, i)).2]
      exact htext.symm
    obtain ⟨s, hfound, rfl⟩ := connect_source (hinv.links (v, i)).source hsource
    obtain ⟨hfirst, hcheck⟩ := getSource_eq_some hfound
    have hs : s ∈ (c.connect l).listSource := List.mem_of_find?_eq_some hfirst
    have hlower := (hinv.links (v, i)).param
    rw [hparam'] at hcheck hlower
    by_cases hempty : t.1 = ""
    · by_cases hout : (((c.connect l).sources table kernel).info s.object).outputs = []
      · exact .inr (.inr ⟨hempty, hout⟩)
      · have hgives : Gives ((c.connect l).sources table kernel) s.object t.1 := by
          rw [hempty, Gives]
          exact Or.inr (getOutputByName_first hout)
        exact .inr (.inl hgives)
    · have hnodup : ((c.connect l).listSource.map ConfSource.object).Nodup := hinv.objects
      have hgives : Gives ((c.connect l).sources table kernel) s.object t.1 :=
        gives_of_checkOutput hnodup hs hlower hempty (hcheck.resolve_left hempty)
      exact .inr (.inl hgives)
  · have heq : (((c.connect l).sources table kernel).info v).kernel = kernel v :=
      sourceInfo_kernel v
    exact .inl (heq ▸ hkernel)

/-! ### A configuration -/

/-- The link of every source of the sample. -/
def sampleLinks : List LinkSlot := [⟨"value", 0x001B⟩]

/-- Classes with one link, which may be left out. -/
def sampleClasses (_ : String) : SourceClass where
  made := sampleLinks
  links _ := sampleLinks
  calls element _ := [.link 0 (element.firstChildElement "link") false]

/-- Two analog inputs, and a variable that is linked to the second. -/
def sampleXml : ConfigXml :=
  .node "tritonn" 1 [] [.node "config" 2 []
    [.node "io" 3 [] [.node "ai" 4 [("name", "a")] [], .node "ai" 5 [("name", "b")] []],
      .node "variables" 6 []
        [.node "variable" 7 [("name", "y")] [.node "link" 8 [("alias", "io.b:value")] []]],
      .node "stations" 9 [] []]]

/-- What is made of it. -/
def sampleConfig : DataConfig where
  max := Function.update (Function.update (fun _ => 0) "ai" 1) "ai" 2
  count := 3
  link := Function.update (fun _ => {}) (2, 0) ⟨"io.b", "value", "io.b:value", 8, none⟩
  listSource := [⟨0, "ai", 0, "io.a", sampleLinks⟩, ⟨1, "ai", 1, "io.b", sampleLinks⟩,
    ⟨2, "variable", 0, "var.y", sampleLinks⟩]
  listLink := [(2, 0)]

lemma load_sample : empty.loadConfig sampleClasses sampleXml = .ok sampleConfig := by
  have ha : "io.a".toLower = "io.a" := Lower.toLower_eq_self (by simp)
  have hb : "io.b".toLower = "io.b" := Lower.toLower_eq_self (by simp)
  have hy : "var.y".toLower = "var.y" := Lower.toLower_eq_self (by simp)
  have htag : "io.b:value".toLower = "io.b:value" := Lower.toLower_eq_self (by simp)
  simp [loadConfig, sampleXml, sampleClasses, sampleConfig, ConfigXml.firstChildElement,
    ConfigXml.children, ConfigXml.name, loadIo, loadItem, ioKinds, loadKind, next, loadCalc,
    loadVariable, ConfigXml.childElements, loadStation, loadReport, loadVariableItem, loadSource,
    loadAlias, ConfigXml.getAttribute, loadLimits, loadCall, loadLink, ConfLink.loadFromXML, empty,
    setLink, pushLink, push, ConfigXml.getLineNum, Result.ok_bind, splitTag, ha, hb, hy, htag]

/-! ### Configurations that were loaded -/

/-- The links of a configuration that was loaded, whatever its classes do. `ResolveLinks` ends at
the first link for which nothing is found. Otherwise each link of the list is connected to the first
source that has its alias, and in every scan from then on each read that is not one of the kernels
finds the fault or an output by the name, unless the link has no parameter and its source no
outputs. -/
theorem resolveLinks_scan (classes : String → SourceClass) (root : ConfigXml) (c : DataConfig)
    (h : empty.loadConfig classes root = .ok c) :
    (∀ stop, c.resolveLinks = .error stop ↔ ∃ before key after,
      c.listLink = before ++ key :: after ∧ (∀ k ∈ before, (c.found k).isSome) ∧
        c.found key = none ∧
        stop = .error ⟨.checkLink, (c.link key).lineNum, (c.link key).fullTag⟩) ∧
    ∀ c', c.resolveLinks = .ok c' →
      (∀ key ∈ c.listLink, ∃ s,
        (c.listSource.find? fun s => (c.link key).mAlias = s.mAlias) = some s ∧
          (c'.link key).source = some s.object) ∧
      ∀ {κ : Type*} (table : UnitsTable) (kernel : ℕ → SourceBody ℕ κ) (n : ℕ) (l : List ℕ)
        (cell : ℕ → SourceState κ) (isCalc : ℕ → Bool)
        (w : Demand.World ℕ (SourceState κ) (String × UInt32) SourceValue),
        (c'.sources table kernel).proccesing n l cell isCalc = some w →
        ∀ e ∈ w.log, (kernel e.reader).Asks e.source e.request ∨
          Gives (c'.sources table kernel) e.source e.request.1 ∨
          (e.request.1 = "" ∧ ((c'.sources table kernel).info e.source).outputs = []) := by
  have hinv := loadConfig_inv h empty_inv
  rw [resolveLinks_eq]
  refine ⟨fun stop => ?_, fun c' hc' => ?_⟩
  · constructor
    · intro hstop
      cases hfind : c.listLink.find? fun key => (c.found key).isNone with
      | none => simp [hfind] at hstop
      | some key =>
          simp only [hfind, Except.error.injEq] at hstop
          obtain ⟨hnone, before, after, hsplit, hbefore⟩ := List.find?_eq_some_iff_append.mp hfind
          exact ⟨before, key, after, hsplit, fun k hk => by simpa using hbefore k hk,
            by simpa using hnone, hstop.symm⟩
    · rintro ⟨before, key, after, hsplit, hbefore, hnone, rfl⟩
      have hfind : (c.listLink.find? fun key => (c.found key).isNone) = some key := by
        rw [List.find?_eq_some_iff_append]
        exact ⟨by rw [hnone]; rfl, before, after, hsplit, fun k hk => by simpa using hbefore k hk⟩
      simp only [hfind]
  · -- every link is found, and the links of the list are connected
    cases hfind : c.listLink.find? fun key => (c.found key).isNone with
    | some key => simp [hfind] at hc'
    | none =>
        simp only [hfind, Except.ok.injEq] at hc'
        subst hc'
        refine ⟨fun key hkey => ?_, fun table kernel n l cell isCalc w hscan e he => ?_⟩
        · have hfound := List.find?_eq_none.mp hfind key hkey
          obtain ⟨s, hs⟩ : ∃ s, c.found key = some s :=
            Option.ne_none_iff_exists'.mp (by simpa using hfound)
          refine ⟨s, ?_, ?_⟩
          · have hfirst := (getSource_eq_some hs).1
            rwa [(hinv.links key).mAlias] at hfirst
          · simp only [connect, if_pos hkey, hs, Option.map_some]
        · have hstart : ((c.connect c.listLink).sources table kernel).system.Asked
              (Sources.preCalculate l ⟨cell, isCalc, true, [], []⟩) := fun e he => by
            rw [Sources.preCalculate_log] at he
            cases he
          exact connect_asks hinv (Demand.System.scan_asked _ n l hscan hstart e he)

/-- The sample with its link connected. -/
def resolvedSample : DataConfig :=
  sampleConfig.setLink (2, 0) fun l => { l with source := some 1 }

lemma resolveLinks_sample : sampleConfig.resolveLinks = .ok resolvedSample := by
  have hb : "io.b".toLower = "io.b" := Lower.toLower_eq_self (by simp)
  have hvalue : "value".toLower = "value" := Lower.toLower_eq_self (by simp)
  have hfound : sampleConfig.found (2, 0) = some ⟨1, "ai", 1, "io.b", sampleLinks⟩ := by
    simp [found, getSource, sampleConfig, sampleLinks, ConfSource.checkOutput, faultName,
      LinkSlot.isOutput, linkOutput, hb, hvalue]
    decide
  have hlist : sampleConfig.listLink = [(2, 0)] := rfl
  rw [resolveLinks, hlist, List.foldlM_cons, resolveLink, hfound]
  rfl

/-- The sources of the sample, whose classes read nothing by themselves. -/
def sampleSources : Sources ℕ Unit :=
  resolvedSample.sources (fun _ => ⟨none, none⟩) fun _ => .done

/-- Their states before a scan: the inputs are 3 and 800. -/
def sampleCell (v : ℕ) : SourceState Unit :=
  ⟨0, 0, fun _ => ⟨some (if v = 0 then 3 else if v = 1 then 800 else 0), 0, {}⟩, ()⟩

/-- The link of the sample leads to the second input, and a scan that begins with the variable asks
that one for its value and finds it. -/
theorem resolveLinks_scan_sample :
    (resolvedSample.link (2, 0)).source = some 1 ∧
      ∃ w, sampleSources.proccesing 4 [2, 0, 1] sampleCell (fun _ => true) = some w ∧
        w.log.map (fun e => (e.reader, e.source, e.request.1, e.answer.value)) =
          [(2, 1, "value", some 800)] ∧
        ∀ e ∈ w.log, Gives sampleSources e.source e.request.1 := by
  obtain ⟨-, hok⟩ := resolveLinks_scan.{0} sampleClasses sampleXml sampleConfig load_sample
  obtain ⟨hlinks, hscan⟩ := hok resolvedSample resolveLinks_sample
  obtain ⟨s, hs, hsource⟩ := hlinks (2, 0) List.mem_cons_self
  have hsecond : some (⟨1, "ai", 1, "io.b", sampleLinks⟩ : ConfSource) = some s := by
    rw [← hs]
    simp [sampleConfig]
  cases Option.some.inj hsecond
  have hrun : (sampleSources.proccesing 4 [2, 0, 1] sampleCell fun _ => true).map
      (fun w => w.log.map fun e => (e.reader, e.source, e.request.1, e.answer.value)) =
        some [(2, 1, "value", some 800)] := by decide +kernel
  obtain ⟨w, hw, hlog⟩ := Option.map_eq_some_iff.mp hrun
  refine ⟨hsource, w, hw, hlog, fun e he => ?_⟩
  rcases hscan _ _ _ _ _ _ w hw e he with hasks | hgives | ⟨hempty, -⟩
  · -- no class of the sample asks for anything
    exact hasks.elim
  · exact hgives
  · have hmem : (e.reader, e.source, e.request.1, e.answer.value) ∈
        [(2, 1, "value", some (800 : LREAL))] := hlog ▸ List.mem_map_of_mem he
    have hname : e.request.1 = "value" := by simp_all
    rw [hname] at hempty
    exact absurd hempty (by decide)

end DataConfig

end Tritonn
