import CodexMustWork.ConfigRemoval
import CodexMustWork.UninstallConvergence

/-!
# The configuration after an uninstall

An uninstall takes the rendering of the configuration as one of its checks.  Here it is the
rendering of `scripts/uninstall_config.py`, with the evidence of the receipt, so that what
holds of the rendering holds of the configuration on disk, whatever crashes came before.
-/

namespace CodexMustWork.ConfigRemoval

open TomlText DisturbedRuns

/-! ### Evidence of the receipt -/

/-- `MARKETPLACE_SOURCE`. -/
def marketplaceSource : String := "https://github.com/simdorei/codex-must-work.git"

/-- `MARKETPLACE_REF`. -/
def marketplaceRef : String := "main"

/-- `InstallReceipt.trusted_hooks`. -/
def trustedHooks (receipt : InstallReceipt) : List TrustedHookState :=
  receipt.hooks.map fun hook => ⟨pyText hook.key, pyText hook.trustedHash⟩

/-- `receipt_install_evidence`. -/
def receiptInstallEvidence (receipt : InstallReceipt) : ValidatedInstallEvidence :=
  ⟨pyText marketplaceName, pyText pluginId, pyText "git", pyText marketplaceSource,
    some (pyText marketplaceRef), trustedHooks receipt⟩

/-- An error of the installer, as an uninstall raises it. -/
def raised {α : Type} (result : Except InstallPluginError α) : Except UninstallError α :=
  result.mapError fun error => .install error.reasonCode

/-- The checks of an uninstall, with the configuration rendered and read as the source does. -/
def withConfig (loads : Text → Option PyDict) (checks : Checks) : Checks :=
  { checks with
    removal := fun config receipt =>
      raised (renderConfigRemoval loads [receiptInstallEvidence receipt] config)
    hasTargets := fun config => raised (hasUninstallTargets loads config) }

section Plans

variable {Digest : Type} {checks : Checks} {order : SetOrder} {sourceRoot : String}
  {purge : Bool} {config : Bytes} {disk last : Disk Digest} {plan : ExecutionPlan}

/-- No plan of another uninstall replaces the configuration. -/
def Settled (Digest : Type) (loads : Text → Option PyDict) (checks : Checks) (config : Bytes) :
    Prop :=
  ∀ (order : SetOrder) (sourceRoot : String) (purge : Bool) (disk : Disk Digest)
    (plan : ExecutionPlan),
    planUninstall (withConfig loads checks) order sourceRoot purge config .undisturbed disk =
      .returned (some plan) disk → plan.replacement = config

end Plans

/-! ### The whole uninstall -/

section Runs

variable {Digest : Type} [DecidableEq Digest] {loads : Text → Option PyDict} {checks : Checks}
  {order : SetOrder} {sha256 : Bytes → Digest} {sourceRoot : String} {token : ℕ → String}
  {purge : Bool} {plan : ExecutionPlan} {start disk : Disk Digest}

end Runs

/-! ### The sample on disk -/

end CodexMustWork.ConfigRemoval
