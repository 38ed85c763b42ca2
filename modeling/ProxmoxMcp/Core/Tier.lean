import ProxmoxMcp.Core.Grant

/-!
# Action tiers

A tool's tier is a property of its name. **Data loss** separates `destructive` from `low`;
whether a tool takes a running guest out of service is the separate question
`interruptsService` answers, and for a backup it depends on the mode of the call.
-/

namespace ProxmoxMcp

open Text

/-- Action class of a tool. -/
inductive Tier where
  /-- Observation only. -/
  | read
  /-- Disruptive but reversible. -/
  | low
  /-- Irreversible. -/
  | destructive
  deriving DecidableEq, Repr

/-- The grant action a tier requires. -/
def Tier.action : Tier → ProxmoxAction
  | read => .read
  | low => .low
  | destructive => .destructive

/-- The tier as a refusal names it. -/
def Tier.name : Tier → String
  | read => "Read"
  | low => "Low"
  | destructive => "Destructive"

/-- Low-tier tools that take a running guest out of service. -/
def interruptingTools : List String :=
  ["reset_vm", "restart_container", "shutdown_vm", "stop_container", "stop_task", "stop_vm",
    "update_container_resources"]

/-- Whether a tool takes a running guest out of service. -/
def interruptsService (tool : String) : Bool := interruptingTools.contains tool

/-- The modes the backup endpoint accepts. -/
def validBackupModes : List String := ["snapshot", "suspend", "stop"]

/-- Whether a backup in this mode takes the guest out of service. -/
def backupInterrupts (mode : String) : Bool := trim mode == "stop" || trim mode == "suspend"

/-- Tools excluded from a wildcard tool scope. -/
def writeTools : List String :=
  ["approve_ha_rule_change", "approve_proxmox_change_set", "clone_vm", "create_backup",
    "create_container", "create_snapshot", "create_vm", "download_iso", "plan_ha_rule_change",
    "plan_proxmox_destroy", "plan_restore_new_vmid", "reset_vm", "restart_container",
    "shutdown_vm", "start_container", "start_vm", "stop_container", "stop_task", "stop_vm",
    "update_container_resources", "resize_disk", "apply_ha_rule_change",
    "apply_proxmox_change_set", "apply_restore_new_vmid", "create_ha_rule", "delete_backup",
    "delete_container", "delete_ha_rule", "delete_iso", "delete_snapshot", "delete_vm",
    "migrate_container", "migrate_vm", "restore_backup", "restore_backup_new_vmid",
    "rollback_snapshot", "update_ha_rule", "update_vm_config", "execute_vm_command"]

end ProxmoxMcp
