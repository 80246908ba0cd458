import VpnMiddleware.Invariants.NodeReconciliation

/-!
# Two classifiers of a node's health

The dashboard and the sync worker each read the panel's free-form status: one
by a set of words and a looser rule for "connect", the other by the words
anywhere in the text.
-/

namespace VpnMiddleware.NodeHealth

open VpnMiddleware.Schema VpnMiddleware.Database VpnMiddleware.Table
open VpnMiddleware.NodeSync VpnMiddleware.NodeReconciliation

/-- `HEALTHY`. -/
def healthyWords : List String :=
  ["online", "connected", "active", "healthy", "running"]

/-- `text.includes(word)`. -/
def includes (text word : String) : Bool :=
  decide (word.toList <:+: text.toList)

/-- `isHealthy(status)`.  Beyond ASCII, `toLowerCase` yields an ASCII letter
only for the Kelvin sign and a dotted capital I (which keeps its dot); no word
that is looked for has a k, or an i at its end. -/
def isHealthy (status : String) : Bool :=
  let s := status.toLower
  healthyWords.contains s || (includes s "connect" && !includes s "dis")

/-- The label of a `NodeCard`. -/
def cardLabel (isActive : Bool) (status : String) : String :=
  if !isActive then "DRAINING"
  else if isHealthy status then "online"
  else "offline"

/-- On the status of a node the dashboard and the sync worker agree: the node's
card says "online" exactly if the synced row may take new sessions. -/
structure ClassifiersAgree (status : String) : Prop where
  answer : isHealthy status = isOnline status
  placement : ∀ now panelNodeId db after,
    syncNode now panelNodeId status db = .ok ((), after) →
      ∀ node ∈ after.nodes, node.panelNodeId = some panelNodeId →
        (cardLabel node.isActive status = "online" ↔
          node.isActive = true ∧ node.status = .active)

/-! ## Where the answers differ -/

/-- A text with "connect" that the words of the sync worker do not cover, such
as "connecting". -/
def IsConnecting (status : String) : Prop :=
  let s := status.toLower
  includes s "connect" = true ∧ includes s "dis" = false ∧
    ∀ word ∈ onlineWords, includes s word = false

/-- A longer text with a word of the list in it, such as "inactive". -/
def BuriesWord (status : String) : Prop :=
  let s := status.toLower
  s ∉ onlineWords ∧ (∃ word ∈ onlineWords, includes s word = true) ∧
    includes s "disconn" = false ∧
    (includes s "connect" = true → includes s "dis" = true)

theorem includes_trans {text word part : String}
    (hword : includes text word = true) (hpart : part.toList <:+: word.toList) :
    includes text part = true := by
  rw [includes, decide_eq_true_eq] at hword ⊢
  exact hpart.trans hword

theorem isOnline_eq (status : String) :
    isOnline status = ((onlineWords.any fun word =>
      includes status.toLower word) && !includes status.toLower "disconn") := rfl

/-- A status that is one of the words has it, and no "disconn". -/
theorem isOnline_of_word {status : String} (hword : status.toLower ∈ onlineWords) :
    isOnline status = true := by
  have hplain : ∀ word ∈ onlineWords, includes word "disconn" = false := by
    decide +kernel
  rw [isOnline_eq, hplain _ hword, Bool.not_false, Bool.and_true, List.any_eq_true]
  exact ⟨_, hword, by simp [includes]⟩

theorem isHealthy_eq_isOnline_iff (status : String) :
    isHealthy status = isOnline status ↔
      ¬ IsConnecting status ∧ ¬ BuriesWord status := by
  by_cases hword : status.toLower ∈ onlineWords
  · have hhealthy : isHealthy status = true := by
      have hcontains : healthyWords.contains status.toLower = true := by
        simpa [healthyWords, onlineWords] using hword
      rw [isHealthy, hcontains, Bool.true_or]
    have hcovered : ¬ IsConnecting status := by
      rintro ⟨-, -, hnone⟩
      have hself := hnone _ hword
      simp [includes] at hself
    have hburied : ¬ BuriesWord status := fun hburied => hburied.1 hword
    simp [hhealthy, isOnline_of_word hword, hcovered, hburied]
  · have hcontains : healthyWords.contains status.toLower = false := by
      simpa [healthyWords, onlineWords] using hword
    have hdis : includes status.toLower "disconn" = true →
        includes status.toLower "dis" = true :=
      fun hdisconn => includes_trans hdisconn (by decide +kernel)
    rw [isOnline_eq, isHealthy, hcontains, Bool.false_or]
    simp only [IsConnecting, BuriesWord, hword, not_false_eq_true, true_and]
    cases hany : onlineWords.any fun word => includes status.toLower word with
    | true =>
        have hsome : ∃ word ∈ onlineWords, includes status.toLower word = true := by
          simpa using hany
        have hnone : ¬ ∀ word ∈ onlineWords,
            includes status.toLower word = false := by
          obtain ⟨word, hmem, hincludes⟩ := hsome
          intro hall
          rw [hall word hmem] at hincludes
          contradiction
        cases hconnect : includes status.toLower "connect" <;>
          cases hd : includes status.toLower "dis" <;>
          cases hdisconn : includes status.toLower "disconn" <;>
          simp_all
    | false =>
        have hnone : ∀ word ∈ onlineWords,
            includes status.toLower word = false := by
          simpa using hany
        have hsome : ¬ ∃ word ∈ onlineWords,
            includes status.toLower word = true := by
          rintro ⟨word, hmem, hincludes⟩
          rw [hnone word hmem] at hincludes
          contradiction
        cases hconnect : includes status.toLower "connect" <;>
          cases hd : includes status.toLower "dis" <;>
          simp_all

/-! ## The dashboard and the placement -/

theorem cardLabel_eq_online_iff {isActive : Bool} {status : String} :
    cardLabel isActive status = "online" ↔
      isActive = true ∧ isHealthy status = true := by
  cases isActive <;> cases hhealthy : isHealthy status <;>
    simp [cardLabel, hhealthy]

/-- After the update for a node, its row is active exactly if the status is
online. -/
theorem status_of_syncNode {now : ℕ} {panelNodeId status : String} {db after : Db}
    (hok : syncNode now panelNodeId status db = .ok ((), after)) {node : Node}
    (hnode : node ∈ after.nodes) (hid : node.panelNodeId = some panelNodeId) :
    node.status = .active ↔ isOnline status = true := by
  rw [syncNode_eq] at hok
  rw [← (Prod.mk.inj (Except.ok.inj hok)).2] at hnode
  obtain ⟨old, -, rfl⟩ := List.mem_map.mp hnode
  by_cases hold : old.panelNodeId = some panelNodeId
  · rw [syncRow, if_pos hold]
    cases isOnline status <;> simp
  · rw [syncRow, if_neg hold] at hid
    exact absurd hid hold

theorem classifiersAgree_iff (status : String) :
    ClassifiersAgree status ↔ ¬ IsConnecting status ∧ ¬ BuriesWord status := by
  rw [← isHealthy_eq_isOnline_iff]
  constructor
  · exact fun hagree => hagree.answer
  · intro hanswer
    refine ⟨hanswer, fun now panelNodeId db after hok node hnode hid => ?_⟩
    rw [cardLabel_eq_online_iff, status_of_syncNode hok hnode hid, hanswer]

/-- Remnawave's word for a node that is not connected yet. -/
theorem connecting_shown_online : ¬ ClassifiersAgree "connecting" := by
  intro hagree
  exact absurd hagree.answer (by decide +kernel)

end VpnMiddleware.NodeHealth
