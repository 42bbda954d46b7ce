import HotspotLinking.Oops
import HotspotLinking.Hierarchy
import HotspotLinking.Arena
import HotspotLinking.Runtime
import HotspotLinking.Lookup
import HotspotLinking.Resolve
import HotspotLinking.Call
import HotspotLinking.Proof.InstanceLookup
import HotspotLinking.Proof.Resolution
import HotspotLinking.Layout
import HotspotLinking.Proof.Calls
import HotspotLinking.Proof.Dispatch
import HotspotLinking.Dependencies
import HotspotLinking.Proof.Dependencies
import HotspotLinking.InvokeDynamic
import HotspotLinking.Proof.InvokeDynamic
import HotspotLinking.EntryPoints
import HotspotLinking.Proof.EntryPoints
