import DemurrageToken.CommandLine.Run
import DemurrageToken.Proofs.BaseRequests

/-! The settings that a run and the library agree on: an option that is not empty,
or else what the environment gives. The command line looks at a variable before
the library does, and treats one that is set to nothing in its own way; where
the result is a base of the usual form this makes no difference. -/
namespace DemurrageToken.CommandLine

/-- The URL of the node: the option, or else that of the environment. -/
def Choice.resolvedUrl (c : Choice) (environment : Environment) : Text :=
  (c.lcdUrl.filter (· ≠ [])).getD environment.nodeUrl

/-- The contract: the option, or else that of the environment. -/
def Choice.resolvedContract? (c : Choice) (environment : Environment) : Option Text :=
  (c.contract.filter (· ≠ [])).or environment.contract?

/-- The contract that a command uses is the one that is resolved. -/
theorem contract?_eq (c : Choice) (environment : Environment) :
    c.contract? environment = c.resolvedContract? environment := by
  rw [Choice.contract?, Choice.chosenContract?, Choice.resolvedContract?]
  cases c.contract with
  | none =>
      cases hVariable : environment.contract? with
      | none => rfl
      | some address => cases address <;> rfl
  | some address => cases address <;> rfl

/-- An empty option is passed on to the client, which asks the environment; a
variable that is set to nothing is not passed on. -/
theorem baseUrlText_nodeUrl {c : Choice} {environment : Environment}
    (h : c.resolvedUrl environment ≠ []) :
    Node.baseUrlText environment (some (c.nodeUrl environment)) =
      Node.baseUrlText environment (some (c.resolvedUrl environment)) := by
  rw [Choice.resolvedUrl] at h ⊢
  rw [Choice.nodeUrl]
  cases hOption : c.lcdUrl with
  | some url =>
      cases url with
      | cons first rest => rfl
      | nil =>
          have hNode : environment.nodeUrl ≠ [] := by
            rw [hOption] at h
            exact h
          obtain ⟨first, rest, hNode⟩ := List.exists_cons_of_ne_nil hNode
          simp [Node.baseUrlText, Option.filter, hNode]
  | none =>
      rw [hOption] at h
      rw [Environment.nodeUrl] at h ⊢
      cases hVariable : environment.lookup (Text.ofString "DEMURRAGE_LCD_URL") with
      | none => rfl
      | some value =>
          rw [hVariable] at h
          cases value with
          | nil => exact absurd rfl h
          | cons first rest => rfl

/-- An empty setting counts as none. -/
theorem filter_eq_none {t? : Option Text} (h : t?.getD [] = []) : t?.filter (· ≠ []) = none := by
  cases t? with
  | none => rfl
  | some t =>
      rw [Option.getD_some] at h
      rw [h]
      rfl

theorem filter_eq_some {t : Text} (h : t ≠ []) : (some t).filter (· ≠ []) = some t := by
  rw [Option.filter_some, if_pos (decide_eq_true h)]

theorem resolvedUrl_of_given {c : Choice} {url : Text} (h : c.lcdUrl = some url) (hUrl : url ≠ [])
    (environment : Environment) : c.resolvedUrl environment = url := by
  rw [Choice.resolvedUrl, h, filter_eq_some hUrl, Option.getD_some]

theorem resolvedContract?_of_given {c : Choice} {contract : Text} (h : c.contract = some contract)
    (hContract : contract ≠ []) (environment : Environment) :
    c.resolvedContract? environment = some contract := by
  rw [Choice.resolvedContract?, h, filter_eq_some hContract, Option.some_or]

/-- No contract is set if option and variable are missing or empty. -/
theorem resolvedContract?_eq_none {c : Choice} {environment : Environment}
    (hOption : c.contract.getD [] = [])
    (hVariable : (environment.lookup (Text.ofString "DEMURRAGE_CONTRACT")).getD [] = []) :
    c.resolvedContract? environment = none := by
  rw [Choice.resolvedContract?, filter_eq_none hOption, Environment.contract?,
    filter_eq_none hVariable, Option.none_or]

/-- The client of a run is the one that the library makes for the resolved
base. -/
theorem connect_nodeUrl {choice : Choice} {loaded : Environment} {b : Node.Base} {slashes : Nat}
    (hUrl : choice.resolvedUrl loaded = b.slashed slashes) :
    Node.Client.connect loaded (some (choice.nodeUrl loaded)) Node.defaultTimeout =
      Node.Client.connect loaded (some (b.slashed slashes)) Node.defaultTimeout := by
  have hNonempty : choice.resolvedUrl loaded ≠ [] := by
    rw [hUrl]
    exact b.slashed_ne_nil slashes
  rw [Node.Client.connect, Node.Client.connect, baseUrlText_nodeUrl hNonempty, hUrl]

end DemurrageToken.CommandLine
