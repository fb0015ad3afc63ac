import Narrative.Proofs.Graph.Scan
import Narrative.Proofs.Text.LowerCase

/-!
What a search finds. Case does not matter to it, because the query and the texts of the nodes are
put in lower case, each on its own; so it also matters how the parts of a text lower-case. Main
statement: a search comes to the nodes in document order, to each of them once, and it misses none
in which the query stands word for word, unless a capital sigma of the query may be the end of a
word in one place and not in another.
-/

namespace Narrative

/-- Whether a text stands as it is in the name, the text or the expression of a node. -/
def Node.Quotes (n : Node) (words : List Char) : Prop :=
  ∃ field ∈ [n.displayName, n.text, n.expression], words <:+: field.toList

namespace Graph

variable {document : Document} {g : Graph} {n : Node} {query : String}

theorem nodup_of_ofDocument (h : ofDocument document = .ok g) :
    (document.nodes.map Node.id).Nodup := by
  by_contra hids
  obtain ⟨n, hn⟩ := Document.exists_firstRepeats_iff.mpr hids
  cases h.symm.trans (ofDocument_of_firstRepeats hn)

theorem matchesLower_iff {needle : List Char} :
    matchesLower needle n = true ↔
      ∃ field ∈ [n.displayName, n.text, n.expression],
        needle <:+: Text.lower field.toList := by
  simp only [matchesLower, List.any_eq_true, Text.occursIn_iff]

theorem search_eq (g : Graph) (hne : Text.trim query.toList ≠ []) :
    g.search query =
      g.document.nodes.filter (matchesLower (Text.lower (Text.trim query.toList))) := by
  unfold search
  split
  · rename_i hnil
    exact absurd hnil (Text.lower_ne_nil hne)
  · rfl

theorem search_sublist (g : Graph) (query : String) :
    (g.search query).Sublist g.document.nodes := by
  unfold search
  split
  · exact List.nil_sublist _
  · exact List.filter_sublist

theorem mem_search_iff (h : ofDocument document = .ok g) (hne : Text.trim query.toList ≠ []) :
    n ∈ g.search query ↔ n ∈ document.nodes ∧
      matchesLower (Text.lower (Text.trim query.toList)) n = true := by
  rw [search_eq g hne, document_of_ofDocument h, List.mem_filter]

/-- A node on which nothing but a text is written. -/
def leaf (text : List Char) : Node where
  id := "leaf"
  typeName := "DialogueFragment"
  text := String.ofList text

/-- A document of one such node. -/
def leaflet (text : List Char) : Document where
  packages := [{ name := "Main", nodes := [leaf text] }]

theorem exists_ofDocument_leaflet (text : List Char) :
    ∃ g, ofDocument (leaflet text) = .ok g :=
  exists_ofDocument (List.nodup_singleton "leaf")

theorem quotes_leaf {text words : List Char} (h : words <:+: text) : (leaf text).Quotes words := by
  refine ⟨String.ofList text, by simp [leaf], ?_⟩
  rwa [String.toList_ofList]

theorem isInfix_of_matchesLower_leaf {text needle : List Char} (hne : needle ≠ [])
    (h : matchesLower needle (leaf text) = true) : needle <:+: Text.lower text := by
  obtain ⟨field, hfield, hinfix⟩ := matchesLower_iff.mp h
  simp only [leaf, List.mem_cons, List.not_mem_nil, or_false] at hfield
  rcases hfield with rfl | rfl | rfl
  · exact absurd (List.infix_nil.mp hinfix) hne
  · rwa [String.toList_ofList] at hinfix
  · exact absurd (List.infix_nil.mp hinfix) hne

/-- A search comes to nodes in document order and to none of them twice. It finds every node in
which the query stands word for word, in every document, if and only if each capital sigma of the
query can be told from the query alone to end a word or not. -/
theorem search_finds_quotes_iff (hne : Text.trim query.toList ≠ []) :
    (∀ document g, ofDocument document = .ok g →
      (g.search query).Sublist document.nodes ∧ ((g.search query).map Node.id).Nodup) ∧
    ((∀ document g, ofDocument document = .ok g →
      ∀ n ∈ document.nodes, n.Quotes (Text.trim query.toList) → n ∈ g.search query) ↔
        Text.TellsEnds (Text.trim query.toList)) := by
  refine ⟨?_, ?_, ?_⟩
  · intro document g h
    have hsublist := search_sublist g query
    rw [document_of_ofDocument h] at hsublist
    exact ⟨hsublist, (nodup_of_ofDocument h).sublist (hsublist.map Node.id)⟩
  · intro hfinds
    rw [Text.tellsEnds_iff_isInfix_lower]
    intro before after
    obtain ⟨g, h⟩ := exists_ofDocument_leaflet (before ++ Text.trim query.toList ++ after)
    have hfound := hfinds _ g h (leaf _) List.mem_cons_self (quotes_leaf ⟨before, after, rfl⟩)
    obtain ⟨-, hmatches⟩ := (mem_search_iff h hne).mp hfound
    exact isInfix_of_matchesLower_leaf (Text.lower_ne_nil hne) hmatches
  · intro htells document g h n hn ⟨field, hfield, before, after, hwords⟩
    refine (mem_search_iff h hne).mpr ⟨hn, matchesLower_iff.mpr ⟨field, hfield, ?_⟩⟩
    rw [← hwords]
    exact Text.isInfix_lower htells before after

/-- A query that begins with a sigma, before a letter in every place. -/
theorem search_finds_quotes_iff_of_wisdom :
    Text.trim " ΣΟΦ ".toList = "ΣΟΦ".toList ∧ Text.TellsEnds "ΣΟΦ".toList ∧
      ∃ g, ofDocument (leaflet "Η ΣΟΦΙΑ".toList) = .ok g ∧
        leaf "Η ΣΟΦΙΑ".toList ∈ g.search " ΣΟΦ " := by
  have htrim : Text.trim " ΣΟΦ ".toList = "ΣΟΦ".toList := by decide
  have htells : Text.TellsEnds "ΣΟΦ".toList := by decide +kernel
  have hne : Text.trim " ΣΟΦ ".toList ≠ [] := by decide
  obtain ⟨g, hg⟩ := exists_ofDocument_leaflet "Η ΣΟΦΙΑ".toList
  have hquotes : (leaf "Η ΣΟΦΙΑ".toList).Quotes (Text.trim " ΣΟΦ ".toList) :=
    quotes_leaf ⟨"Η ".toList, "ΙΑ".toList, by decide⟩
  have hfinds := (search_finds_quotes_iff hne).2.mpr (htrim.symm ▸ htells)
  exact ⟨htrim, htells, g, hg, hfinds _ g hg _ List.mem_cons_self hquotes⟩

/-- A query that ends in a sigma, which ends no word where the query stands. -/
theorem not_search_finds_quotes_of_castle :
    ∃ g, ofDocument (leaflet "ΚΑΣΤΡΟ".toList) = .ok g ∧
      leaf "ΚΑΣΤΡΟ".toList ∈ (leaflet "ΚΑΣΤΡΟ".toList).nodes ∧
      (leaf "ΚΑΣΤΡΟ".toList).Quotes (Text.trim "ΚΑΣ".toList) ∧
      leaf "ΚΑΣΤΡΟ".toList ∉ g.search "ΚΑΣ" := by
  have hne : Text.trim "ΚΑΣ".toList ≠ [] := by decide
  have hlower : Text.occursIn (Text.lower (Text.trim "ΚΑΣ".toList))
      (Text.lower "ΚΑΣΤΡΟ".toList) = false := by decide +kernel
  obtain ⟨g, hg⟩ := exists_ofDocument_leaflet "ΚΑΣΤΡΟ".toList
  refine ⟨g, hg, List.mem_cons_self, quotes_leaf ⟨[], "ΤΡΟ".toList, by decide⟩, ?_⟩
  intro hfound
  obtain ⟨-, hmatches⟩ := (mem_search_iff hg hne).mp hfound
  have hinfix := isInfix_of_matchesLower_leaf (Text.lower_ne_nil hne) hmatches
  rw [Text.occursIn_iff.mpr hinfix] at hlower
  cases hlower

end Graph

end Narrative
