import ProxmoxMcp.Server.Read

/-!
# The catalog

A read is an entry of the **catalog**: its name, its path and how its answer is filtered. Each read
tool hands the name of its entry to one executor, with the parameters it takes from its caller. The
catalog is also where the tier of a name is settled: a name is destructive or low by the two lists
of writing tools, a read by its entry, and otherwise **unclassified**.
-/

namespace ProxmoxMcp

open Interaction Program Text

/-! ### Entries -/

/-- The read surface. -/
def readTools : List ReadTool :=
  [⟨"get_cluster_status", "/api2/json/cluster/status", [], none, false⟩,
   ⟨"get_nodes", "/api2/json/nodes", [], none, false⟩,
   ⟨"get_node_status", "/api2/json/nodes/{node}/status", [], none, false⟩,
   ⟨"get_vms", "/api2/json/cluster/resources", [], some .qemu, true⟩,
   ⟨"get_containers", "/api2/json/cluster/resources", [], some .lxc, true⟩,
   ⟨"get_vm_config", "/api2/json/nodes/{node}/qemu/{vmid}/config", [], none, false⟩,
   ⟨"get_container_config", "/api2/json/nodes/{node}/lxc/{vmid}/config", [], none, false⟩,
   ⟨"get_container_ip", "/api2/json/nodes/{node}/lxc/{vmid}/interfaces", [], none, false⟩,
   ⟨"get_guest_status", "/api2/json/nodes/{node}/{kind}/{vmid}/status/current", [], none, false⟩,
   ⟨"list_snapshots", "/api2/json/nodes/{node}/{kind}/{vmid}/snapshot", [], none, false⟩,
   ⟨"get_storage", "/api2/json/nodes/{node}/storage", [], none, false⟩,
   ⟨"list_backups",
    "/api2/json/nodes/{node}/storage/{storage}/content", [("content", "backup")], none, false⟩,
   ⟨"list_isos",
    "/api2/json/nodes/{node}/storage/{storage}/content", [("content", "iso")], none, false⟩,
   ⟨"list_templates",
    "/api2/json/nodes/{node}/storage/{storage}/content", [("content", "vztmpl")], none, false⟩,
   ⟨"list_tasks", "/api2/json/nodes/{node}/tasks", [], none, false⟩,
   ⟨"get_task_status", "/api2/json/nodes/{node}/tasks/{upid}/status", [], none, false⟩,
   ⟨"get_cluster_firewall_rules", "/api2/json/cluster/firewall/rules", [], none, false⟩,
   ⟨"get_cluster_firewall_options", "/api2/json/cluster/firewall/options", [], none, false⟩,
   ⟨"list_firewall_security_groups", "/api2/json/cluster/firewall/groups", [], none, false⟩,
   ⟨"get_firewall_security_group_rules",
    "/api2/json/cluster/firewall/groups/{group}", [], none, false⟩,
   ⟨"list_firewall_ipsets", "/api2/json/cluster/firewall/ipset", [], none, false⟩,
   ⟨"get_firewall_ipset_entries", "/api2/json/cluster/firewall/ipset/{name}", [], none, false⟩,
   ⟨"list_firewall_aliases", "/api2/json/cluster/firewall/aliases", [], none, false⟩,
   ⟨"get_node_firewall_rules", "/api2/json/nodes/{node}/firewall/rules", [], none, false⟩,
   ⟨"get_node_firewall_options", "/api2/json/nodes/{node}/firewall/options", [], none, false⟩,
   ⟨"get_guest_firewall_rules",
    "/api2/json/nodes/{node}/{kind}/{vmid}/firewall/rules", [], none, false⟩,
   ⟨"get_guest_firewall_options",
    "/api2/json/nodes/{node}/{kind}/{vmid}/firewall/options", [], none, false⟩,
   ⟨"list_guest_firewall_aliases",
    "/api2/json/nodes/{node}/{kind}/{vmid}/firewall/aliases", [], none, false⟩,
   ⟨"list_guest_firewall_ipsets",
    "/api2/json/nodes/{node}/{kind}/{vmid}/firewall/ipset", [], none, false⟩,
   ⟨"get_guest_firewall_ipset_entries",
    "/api2/json/nodes/{node}/{kind}/{vmid}/firewall/ipset/{name}", [], none, false⟩,
   ⟨"list_ha_rules", "/api2/json/cluster/ha/rules", [], none, false⟩,
   ⟨"get_ha_rule", "/api2/json/cluster/ha/rules/{rule}", [], none, false⟩]

/-- Look up a read tool by its name. -/
def readTool (name : String) : Option ReadTool := readTools.find? fun tool => tool.name == name

/-! ### Tiers -/

/-- The tools whose tier is destructive. -/
def destructiveTools : List String :=
  ["apply_ha_rule_change", "apply_proxmox_change_set", "apply_restore_new_vmid", "create_ha_rule",
    "delete_backup", "delete_container", "delete_ha_rule", "delete_iso", "delete_snapshot",
    "delete_vm", "execute_vm_command", "migrate_container", "migrate_vm", "restore_backup",
    "restore_backup_new_vmid", "rollback_snapshot", "update_ha_rule", "update_vm_config"]

/-- The tier of a tool, if the name is classified. -/
def tierOf (tool : String) : Option Tier :=
  if destructiveTools.contains tool then some .destructive
  else if writeTools.contains tool then some .low
  else if tool == "get_proxmox_change_set" || tool == "get_ha_rule_change_set" then some .read
  else (readTool tool).map fun _ => .read

/-! ### Handlers -/

/-- The read tools that hand an entry to the executor, with what their callers give them. -/
inductive ReadCall where
  | getClusterStatus (cluster : String)
  | getNodes (cluster : String)
  | getNodeStatus (cluster node : String)
  | listHaRules (cluster : String)
  | getHaRule (cluster rule : String)
  | getVms (cluster : String) (offset limit : Option UInt32)
  | getContainers (cluster : String) (offset limit : Option UInt32)
  | getVmConfig (cluster : String) (vmid : UInt32)
  | getContainerConfig (cluster : String) (vmid : UInt32)
  | getGuestStatus (cluster : String) (vmid : UInt32)
  | listSnapshots (cluster : String) (vmid : UInt32)
  | getStorage (cluster node : String)
  | listBackups (cluster node storage : String) (offset limit : Option UInt32)
  | listIsos (cluster node storage : String)
  | listTemplates (cluster node storage : String)
  | listTasks (cluster node : String)
  | getTaskStatus (cluster node upid : String)
  | getClusterFirewallRules (cluster : String)
  | getClusterFirewallOptions (cluster : String)
  | listFirewallSecurityGroups (cluster : String)
  | getFirewallSecurityGroupRules (cluster group : String)
  | listFirewallIpsets (cluster : String)
  | getFirewallIpsetEntries (cluster name : String)
  | listFirewallAliases (cluster : String)
  | getNodeFirewallRules (cluster node : String)
  | getNodeFirewallOptions (cluster node : String)
  | getGuestFirewallRules (cluster : String) (vmid : UInt32)
  | getGuestFirewallOptions (cluster : String) (vmid : UInt32)
  | listGuestFirewallAliases (cluster : String) (vmid : UInt32)
  | listGuestFirewallIpsets (cluster : String) (vmid : UInt32)
  | getGuestFirewallIpsetEntries (cluster name : String) (vmid : UInt32)

/-- What a handler hands to the executor. -/
structure Handed where
  name : String
  cluster : String
  params : List (String × String)
  vmid : Option UInt32
  requiresUnrestrictedGuestScope : Bool
  /-- For a paged listing, the offset and the limit its caller asks for. -/
  page : Option (Option UInt32 × Option UInt32)

namespace ReadCall

def handed : ReadCall → Handed
  | getClusterStatus cluster => ⟨"get_cluster_status", cluster, [], none, false, none⟩
  | getNodes cluster => ⟨"get_nodes", cluster, [], none, false, none⟩
  | getNodeStatus cluster node => ⟨"get_node_status", cluster, [("node", node)], none, true, none⟩
  | listHaRules cluster => ⟨"list_ha_rules", cluster, [], none, true, none⟩
  | getHaRule cluster rule => ⟨"get_ha_rule", cluster, [("rule", rule)], none, true, none⟩
  | getVms cluster offset limit => ⟨"get_vms", cluster, [], none, false, some (offset, limit)⟩
  | getContainers cluster offset limit =>
    ⟨"get_containers", cluster, [], none, false, some (offset, limit)⟩
  | getVmConfig cluster vmid => ⟨"get_vm_config", cluster, [], some vmid, false, none⟩
  | getContainerConfig cluster vmid => ⟨"get_container_config", cluster, [], some vmid, false, none⟩
  | getGuestStatus cluster vmid => ⟨"get_guest_status", cluster, [], some vmid, false, none⟩
  | listSnapshots cluster vmid => ⟨"list_snapshots", cluster, [], some vmid, false, none⟩
  | getStorage cluster node => ⟨"get_storage", cluster, [("node", node)], none, true, none⟩
  | listBackups cluster node storage offset limit =>
    ⟨"list_backups", cluster, [("node", node), ("storage", storage)], none, true,
    some (offset, limit)⟩
  | listIsos cluster node storage =>
    ⟨"list_isos", cluster, [("node", node), ("storage", storage)], none, true, none⟩
  | listTemplates cluster node storage =>
    ⟨"list_templates", cluster, [("node", node), ("storage", storage)], none, true, none⟩
  | listTasks cluster node => ⟨"list_tasks", cluster, [("node", node)], none, true, none⟩
  | getTaskStatus cluster node upid =>
    ⟨"get_task_status", cluster, [("node", node), ("upid", upid)], none, true, none⟩
  | getClusterFirewallRules cluster => ⟨"get_cluster_firewall_rules", cluster, [], none, true, none⟩
  | getClusterFirewallOptions cluster =>
    ⟨"get_cluster_firewall_options", cluster, [], none, true, none⟩
  | listFirewallSecurityGroups cluster =>
    ⟨"list_firewall_security_groups", cluster, [], none, true, none⟩
  | getFirewallSecurityGroupRules cluster group =>
    ⟨"get_firewall_security_group_rules", cluster, [("group", group)], none, true, none⟩
  | listFirewallIpsets cluster => ⟨"list_firewall_ipsets", cluster, [], none, true, none⟩
  | getFirewallIpsetEntries cluster name =>
    ⟨"get_firewall_ipset_entries", cluster, [("name", name)], none, true, none⟩
  | listFirewallAliases cluster => ⟨"list_firewall_aliases", cluster, [], none, true, none⟩
  | getNodeFirewallRules cluster node =>
    ⟨"get_node_firewall_rules", cluster, [("node", node)], none, true, none⟩
  | getNodeFirewallOptions cluster node =>
    ⟨"get_node_firewall_options", cluster, [("node", node)], none, true, none⟩
  | getGuestFirewallRules cluster vmid =>
    ⟨"get_guest_firewall_rules", cluster, [], some vmid, false, none⟩
  | getGuestFirewallOptions cluster vmid =>
    ⟨"get_guest_firewall_options", cluster, [], some vmid, false, none⟩
  | listGuestFirewallAliases cluster vmid =>
    ⟨"list_guest_firewall_aliases", cluster, [], some vmid, false, none⟩
  | listGuestFirewallIpsets cluster vmid =>
    ⟨"list_guest_firewall_ipsets", cluster, [], some vmid, false, none⟩
  | getGuestFirewallIpsetEntries cluster name vmid =>
    ⟨"get_guest_firewall_ipset_entries", cluster, [("name", name)], some vmid, false, none⟩

/-- The page a caller asks for, if the listing has pages. -/
def page (call : ReadCall) : Except String (Option (UInt32 × UInt32)) :=
  match call.handed.page with
  | none => .ok none
  | some (offset, limit) => some <$> resolvePage offset limit

end ReadCall

/-- Serve one read of the catalog. -/
def ProxmoxServer.serveReadCall [Externals] (server : ProxmoxServer) (caller : Option CallerCtx)
    (call : ReadCall) : ToolM Json := do
  let page ← orRefuse call.page
  match readTool call.handed.name with
  | some tool =>
    server.serveRead tool caller call.handed.cluster call.handed.params call.handed.vmid
      call.handed.requiresUnrestrictedGuestScope page
  -- No handler comes here: each names an entry.
  | none => throw (toolError s!"unregistered tool: {call.handed.name}")

end ProxmoxMcp
