import AcceleratorFabric.FabricAttributes
import AcceleratorFabric.GoQuote

/-! # The texts of the selectors

A template holds its selectors as CEL texts, and `sync` compares texts when it decides whether a
template has to be replaced.  Vendors and products are arbitrary texts that become literals of
these expressions.

`texts_determine_selection`: whatever these texts are, templates with the same expressions have the
same selectors, and their policies select the same devices. -/

namespace AcceleratorFabric.PolicyController

open GoText AcceleratorFabric.Dra

namespace CelSelector

/-- The expression after the attribute and a blank. -/
def comparison [IsPrint] : CelSelector → List Char
  | stringEq _ value => '=' :: '=' :: ' ' :: (quote value).toList
  | stringIn _ values =>
      'i' :: 'n' :: ' ' :: '[' :: ((",".intercalate (values.map quote)).toList ++ [']'])
  | intAtLeast _ bound => '>' :: '=' :: ' ' :: (formatInt bound).toList
  | intAtMost _ bound => '<' :: '=' :: ' ' :: (formatInt bound).toList

theorem toList_expression [IsPrint] (s : CelSelector) :
    s.expression.toList = (celAttribute s.attributeName).toList ++ ' ' :: s.comparison := by
  cases s with
  | stringEq name value => simp [expression, attributeName, comparison]
  | stringIn name values => simp [expression, attributeName, comparison]
  | intAtLeast name bound => simp [expression, attributeName, comparison]
  | intAtMost name bound => simp [expression, attributeName, comparison]

theorem eq_of_comparison [IsPrint] {s t : CelSelector} (hname : s.attributeName = t.attributeName)
    (h : s.comparison = t.comparison) : s = t := by
  have hdrop := congrArg (List.drop 3) h
  cases s with
  | stringEq name value =>
      cases t with
      | stringEq name' value' =>
          obtain rfl : name = name' := hname
          rw [quote_injective (String.toList_inj.mp hdrop)]
      | stringIn name' values => cases (List.cons.inj h).1
      | intAtLeast name' bound => cases (List.cons.inj h).1
      | intAtMost name' bound => cases (List.cons.inj h).1
  | stringIn name values =>
      cases t with
      | stringIn name' values' =>
          obtain rfl : name = name' := hname
          rw [quotedList_inj (List.cons.inj hdrop).2]
      | stringEq name' value => cases (List.cons.inj h).1
      | intAtLeast name' bound => cases (List.cons.inj h).1
      | intAtMost name' bound => cases (List.cons.inj h).1
  | intAtLeast name bound =>
      cases t with
      | intAtLeast name' bound' =>
          obtain rfl : name = name' := hname
          rw [formatInt_injective (String.toList_inj.mp hdrop)]
      | stringEq name' value => cases (List.cons.inj h).1
      | stringIn name' values => cases (List.cons.inj h).1
      | intAtMost name' bound => cases (List.cons.inj h).1
  | intAtMost name bound =>
      cases t with
      | intAtMost name' bound' =>
          obtain rfl : name = name' := hname
          rw [formatInt_injective (String.toList_inj.mp hdrop)]
      | stringEq name' value => cases (List.cons.inj h).1
      | stringIn name' values => cases (List.cons.inj h).1
      | intAtLeast name' bound => cases (List.cons.inj h).1

theorem toList_celAttribute (name : String) : (celAttribute name).toList =
    ("device.attributes[\"" ++ driverName ++ "\"].").toList ++ name.toList :=
  String.toList_append

theorem blank_not_mem_celAttribute {name : String} (h : ' ' ∉ name.toList) :
    ' ' ∉ (celAttribute name).toList := by
  have hfixed : ' ' ∉ ("device.attributes[\"" ++ driverName ++ "\"].").toList := by decide +kernel
  rw [toList_celAttribute, List.mem_append, not_or]
  exact ⟨hfixed, h⟩

/-- **Different selectors have different texts**, as long as the attributes have no blanks. -/
theorem expression_inj [IsPrint] {s t : CelSelector} (hs : ' ' ∉ s.attributeName.toList)
    (ht : ' ' ∉ t.attributeName.toList) (h : s.expression = t.expression) : s = t := by
  have htext := congrArg String.toList h
  rw [toList_expression, toList_expression] at htext
  obtain ⟨hname, hcomparison⟩ :=
    cut_inj (blank_not_mem_celAttribute hs) (blank_not_mem_celAttribute ht) htext
  rw [toList_celAttribute, toList_celAttribute] at hname
  exact eq_of_comparison (String.toList_inj.mp (List.append_cancel_left hname)) hcomparison

end CelSelector

theorem map_expression_inj [IsPrint] : ∀ {l m : List CelSelector},
    (∀ s ∈ l, ' ' ∉ s.attributeName.toList) → (∀ s ∈ m, ' ' ∉ s.attributeName.toList) →
      l.map CelSelector.expression = m.map CelSelector.expression → l = m
  | [], [], _, _, _ => rfl
  | s :: l, t :: m, hl, hm, h => by
      rw [List.forall_mem_cons] at hl hm
      obtain ⟨hhead, htail⟩ := List.cons.inj h
      rw [CelSelector.expression_inj hl.1 hm.1 hhead, map_expression_inj hl.2 hm.2 htail]

/-! ### Templates -/

/-- The attributes of the selectors for health, vendor, product and memory. -/
def deviceAttributes : List String := ["health", "vendor", "product", "memoryMiB"]

theorem attributeName_deviceSelectors {spec : AcceleratorPlacementPolicySpec} {s : CelSelector}
    (h : s ∈ deviceSelectors spec) : s.attributeName ∈ deviceAttributes := by
  simp only [deviceSelectors, List.mem_append, List.mem_singleton, List.mem_ite_nil_right] at h
  rcases h with ((rfl | ⟨_, rfl⟩) | ⟨_, rfl⟩) | ⟨_, rfl⟩
  · decide
  · exact List.mem_cons_of_mem _ List.mem_cons_self
  · exact List.mem_cons_of_mem _ (List.mem_cons_of_mem _ List.mem_cons_self)
  · exact List.mem_cons_of_mem _ (List.mem_cons_of_mem _ (List.mem_cons_of_mem _ List.mem_cons_self))

section templates

variable [FloatConversion] {policy : AcceleratorPlacementPolicy} {template : ResourceClaimTemplate}

theorem attributeName_fabricSelectors {spec : AcceleratorPlacementPolicySpec} {s : CelSelector}
    (h : s ∈ fabricSelectors spec) :
    s.attributeName = "fabricBandwidthGBps" ∨ s.attributeName = "fabricHops" := by
  simp only [fabricSelectors, List.mem_append, List.mem_singleton, List.mem_ite_nil_right] at h
  rcases h with ⟨_, rfl⟩ | rfl
  · exact .inl rfl
  · exact .inr rfl

/-- A template's selectors are those for devices and then some for the fabric. -/
theorem exists_fabric_of_template
    (h : resourceClaimTemplateForPolicy (some policy) = .ok template) :
    ∃ fabric, template.selectors = deviceSelectors policy.spec ++ fabric ∧ ∀ s ∈ fabric,
      s.attributeName = "fabricBandwidthGBps" ∨ s.attributeName = "fabricHops" := by
  obtain ⟨_, selectors, _, hmode, hselectors, _⟩ := template_cases h
  obtain ⟨hclique, hother⟩ := selectors_of_modeSelection hmode
  refine ⟨selectors, hselectors, ?_⟩
  by_cases hfabric : policy.spec.topologyMode = .fabricClique
  · rw [(hclique hfabric).1]
    exact fun s hs => attributeName_fabricSelectors hs
  · rw [hother hfabric]
    simp

theorem blank_not_mem_attributeName
    (h : resourceClaimTemplateForPolicy (some policy) = .ok template) :
    ∀ s ∈ template.selectors, ' ' ∉ s.attributeName.toList := by
  obtain ⟨fabric, hselectors, hfabric⟩ := exists_fabric_of_template h
  intro s hs
  rw [hselectors] at hs
  rcases List.mem_append.mp hs with hs | hs
  · have hall : ∀ name ∈ deviceAttributes, ' ' ∉ name.toList := by decide
    exact hall _ (attributeName_deviceSelectors hs)
  · rcases hfabric s hs with hname | hname
    · rw [hname]
      decide
    · rw [hname]
      decide

/-- The selectors for devices are found by their attributes. -/
theorem filter_of_template (h : resourceClaimTemplateForPolicy (some policy) = .ok template) :
    template.selectors.filter (fun s => s.attributeName ∈ deviceAttributes) =
      deviceSelectors policy.spec := by
  obtain ⟨fabric, hselectors, hfabric⟩ := exists_fabric_of_template h
  have hdevices : (deviceSelectors policy.spec).filter
      (fun s => s.attributeName ∈ deviceAttributes) = deviceSelectors policy.spec :=
    List.filter_eq_self.mpr fun s hs => decide_eq_true (attributeName_deviceSelectors hs)
  have hnone : fabric.filter (fun s => s.attributeName ∈ deviceAttributes) = [] := by
    refine List.filter_eq_nil_iff.mpr fun s hs => ?_
    rcases hfabric s hs with hname | hname
    · rw [hname]
      decide
    · rw [hname]
      decide
  rw [hselectors, List.filter_append, hdevices, hnone, List.append_nil]

end templates

/-- **The texts determine the selection.**  Whatever vendors and products two policies name and
whichever characters are printable, if their templates have the same expressions, then they have
the same selectors, and the policies select the same devices. -/
theorem texts_determine_selection [IsPrint] [FloatConversion]
    (policy policy' : AcceleratorPlacementPolicy) (template template' : ResourceClaimTemplate)
    (h : resourceClaimTemplateForPolicy (some policy) = .ok template)
    (h' : resourceClaimTemplateForPolicy (some policy') = .ok template')
    (htexts : template.selectors.map CelSelector.expression =
      template'.selectors.map CelSelector.expression) :
    template.selectors = template'.selectors ∧
      ∀ d : AcceleratorDevice, Selects policy.spec d ↔ Selects policy'.spec d := by
  have hselectors := map_expression_inj (blank_not_mem_attributeName h)
    (blank_not_mem_attributeName h') htexts
  refine ⟨hselectors, fun d => ?_⟩
  have hdevices : deviceSelectors policy.spec = deviceSelectors policy'.spec := by
    rw [← filter_of_template h, ← filter_of_template h', hselectors]
  rw [← (eval_deviceSelectors ⟨"", 0, [], []⟩ policy.spec d).2, hdevices,
    (eval_deviceSelectors ⟨"", 0, [], []⟩ policy'.spec d).2]

/-- A policy for one product, with a quote and a no-break space in its name. -/
def productPolicy (mode : TopologyMode) : AcceleratorPlacementPolicy :=
  let policy := samplePolicyObject mode 2
  { policy with spec := { policy.spec with products := ["\"H100\"\u00a0PCIe"] } }

/-- The mode of a policy changes its constraints but not its selectors. -/
theorem texts_determine_selection_of_modes :
    let : IsPrint := asciiPrint
    let : FloatConversion := amd64
    ∃ template template', resourceClaimTemplateForPolicy (some (productPolicy .singleNUMA)) =
        .ok template ∧
      resourceClaimTemplateForPolicy (some (productPolicy .bestEffort)) = .ok template' ∧
      template.selectors = template'.selectors := by
  intro _ _
  obtain ⟨template, h⟩ : ∃ template, resourceClaimTemplateForPolicy
      (some (productPolicy .singleNUMA)) = .ok template := ⟨_, rfl⟩
  obtain ⟨template', h'⟩ : ∃ template, resourceClaimTemplateForPolicy
      (some (productPolicy .bestEffort)) = .ok template := ⟨_, rfl⟩
  refine ⟨template, template', h, h', (texts_determine_selection _ _ _ _ h h' ?_).1⟩
  cases h
  cases h'
  rfl

end AcceleratorFabric.PolicyController
