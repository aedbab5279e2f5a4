/-
**Callback access (`omdesky-application/src/access.rs`).**

A session calls back from the remote computer to the controller, so the controller has to allow the
remote device two capabilities. Here is which of them an allowlist withholds, and the error.
-/

import Omdesky.Ports

namespace Omdesky.Application

/-- `missing_callback_capabilities`. -/
def missingCallbackCapabilities (allowlist : List AllowedController) (tailnetNodeId : String) :
    List ControlCapability :=
  let entry := allowlist.find? fun entry => entry.tailnetNodeId == tailnetNodeId
  ControlCapability.callback.filter fun capability => !entry.any fun entry => entry.allows capability

/-- `callback_access_error`. -/
def callbackAccessError (missing : List ControlCapability) : PortError where
  code := "CALLBACK_ACCESS_MISSING"
  message := "the controller does not grant " ++ ",".intercalate (missing.map ControlCapability.asStr) ++
    " to the remote device"
  retryable := false

/-- Nothing is missing exactly when the first entry of the node grants both callbacks. -/
theorem missingCallbackCapabilities_eq_nil {allowlist : List AllowedController}
    {tailnetNodeId : String} : missingCallbackCapabilities allowlist tailnetNodeId = [] ↔
      ∃ entry, allowlist.find? (fun entry => entry.tailnetNodeId == tailnetNodeId) = some entry ∧
        ∀ capability ∈ ControlCapability.callback, entry.allows capability = true := by
  unfold missingCallbackCapabilities
  dsimp only
  rw [List.filter_eq_nil_iff]
  cases allowlist.find? fun entry => entry.tailnetNodeId == tailnetNodeId with
  | none =>
      constructor
      · intro withheld
        exact absurd rfl (withheld .sendShortcut List.mem_cons_self)
      · rintro ⟨entry, ⟨⟩, _⟩
  | some entry => simp

end Omdesky.Application
