import ChatFlow.Proofs.Document.Settled

/-!
# Settings of nodes that were read

In the objects of a JSON value the fields have different names.  Putting the shape of a document
right writes fields and never repeats one, so the settings of a node that was read have different
names too, and so has every object in them (`isTidy_config_of_parse`).
-/

namespace ChatFlow.Document

variable {v : Value} {raw nodes fields us data : Entries Value} {d : Document}

/-! ### Nodes of a list -/

theorem gathered_of_isTidy (h : (Value.object fields).isTidy = true) : Json.Gathered fields :=
  ⟨(Value.isTidy_object.mp h).1, (Value.isTidy_object.mp h).2⟩

theorem gathered_putIf {reason : Bool} {name : String} {value : Value} (h : Json.Gathered fields)
    (hvalue : value.isTidy = true) : Json.Gathered (putIf reason fields name value) := by
  unfold putIf
  split
  · exact h.put name hvalue
  · exact h

theorem gathered_unwrapped (h : (Value.object fields).isTidy = true)
    (hus : unwrapped fields = .ok us) : Json.Gathered us := by
  unfold unwrapped at hus
  split at hus
  · rename_i data hdata
    have hgiven (name : String) : (fieldOf data name).isTidy = true :=
      isTidy_of_fieldOf (Value.isTidy_of_field? h hdata) rfl
    rw [unwrap_eq] at hus
    obtain ⟨wrapped, -, rfl⟩ := map_eq_ok_iff.mp hus
    have htyped : Json.Gathered (typed wrapped fields data) :=
      gathered_putIf (gathered_of_isTidy h) (hgiven "type")
    exact gathered_putIf (gathered_putIf htyped (hgiven "config")) rfl
  · obtain rfl := Except.ok.inj hus
    exact gathered_of_isTidy h

/-- The fields of a node put right are as tidy as they were. -/
theorem gathered_nodeFields (h : (Value.object fields).isTidy = true)
    (hus : nodeFields fields = .ok us) : Json.Gathered us := by
  rw [nodeFields_eq] at hus
  obtain ⟨ws, hws, rfl⟩ := map_eq_ok_iff.mp hus
  exact (gathered_putIf (gathered_unwrapped h hws) rfl).put "id" rfl

/-! ### Entries of a map -/

theorem isTidy_of_mem_mapped {e : String × Entries Value} (h : StoresMap v raw nodes)
    (hv : v.isTidy = true) (he : e ∈ mapped nodes) : (Value.object e.2).isTidy = true := by
  have hnodes := isTidy_of_fieldOf (isTidy_of_said? hv h.said) h.map
  obtain ⟨⟨key, w⟩, hmem, hw⟩ := List.mem_filterMap.mp he
  cases w with
  | object fs =>
    obtain rfl := Option.some.inj hw
    exact (Value.isTidy_object.mp hnodes).2 _ hmem
  | _ => cases hw

theorem isTidy_legacyConfig {entry : Entries Value} (h : (Value.object entry).isTidy = true) :
    (Value.object (legacyConfig entry)).isTidy = true := by
  unfold legacyConfig
  split
  · exact Value.isTidy_of_field? h ‹_›
  · exact Value.isTidy_filter h _

/-! ### Settings -/

theorem isTidy_config_of_readFrom {n : Node} (h : (Value.object fields).isTidy = true)
    (hread : n.ReadFrom fields) : (Value.object n.config).isTidy = true := by
  rw [← hread.config]
  cases hconfig : fields.find? "config" with
  | none => rfl
  | some w => exact Value.isTidy_of_field? h hconfig

/-- The settings of a node that was read are tidy, from whichever shape it came. -/
theorem isTidy_config_of_parse (hv : v.isTidy = true) (hd : parse v = .ok d) {n : Node}
    (hn : n ∈ d.nodes) : (Value.object n.config).isTidy = true := by
  obtain rfl | ⟨raw, nodes, hmap⟩ | ⟨raw, nodes, parts, hsaid, hnodes, hparts, hread⟩ :=
    cases_of_parse hd
  · cases hn
  · obtain ⟨e, he, hread⟩ := mem_of_allOf (hmap.allOf_nodes hd) hn
    obtain ⟨-, -, hconfig, -⟩ := readFrom_legacyNode (node?_eq_some_iff.mp hread)
    exact hconfig ▸ isTidy_legacyConfig (isTidy_of_mem_mapped hmap hv he)
  · rw [partsOf_of_nodes hnodes] at hparts
    obtain ⟨edges, -, hparts⟩ := bind_eq_ok_iff.mp hparts
    obtain ⟨outs, houts, hparts⟩ := bind_eq_ok_iff.mp hparts
    obtain rfl := pure_eq_ok_iff.mp hparts
    obtain ⟨out, hout, hnode⟩ := mem_of_allOf (ofParts_eq_ok_iff.mp hread).1 hn
    obtain ⟨node, hnode', hright⟩ := mem_of_mapM houts hout
    obtain ⟨hmem, -⟩ := mem_namedNodes.mp hnode'
    have htidy : (Value.object node).isTidy = true := by
      rcases nodes_of_firstPresent hnodes with ⟨-, hlist⟩ | hnone
      · exact Value.isTidy_list.mp (isTidy_of_fieldOf (isTidy_of_said? hv hsaid) hlist) _ hmem
      · rw [Value.list.inj hnone] at hmem
        cases hmem
    exact isTidy_config_of_readFrom (gathered_nodeFields htidy hright).object
      (node?_eq_some_iff.mp hnode)

end ChatFlow.Document
