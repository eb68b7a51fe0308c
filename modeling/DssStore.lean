import DssStore.Strconv
import DssStore.Version
import DssStore.Sql
import DssStore.Tx
import DssStore.Cell
import DssStore.Models
import DssStore.Proto
import DssStore.Cockroach.Tables
import DssStore.Cockroach.Push
import DssStore.Cockroach.Store
import DssStore.Cockroach.Spec
import DssStore.Cockroach.Runs
import DssStore.Cockroach.Versions
import DssStore.ProtoStore.Tables
import DssStore.ProtoStore.Store
import DssStore.ProtoStore.Subscriptions
import DssStore.ProtoStore.Behaviour
import DssStore.ProtoStore.DeleteIsa
import DssStore.ProtoStore.Runs
import DssStore.ProtoStore.Frame
import DssStore.ProtoStore.Healthy
import DssStore.ProtoStore.VersionTokens
import DssStore.Cockroach.CreateOnly
import DssStore.Bufio
import DssStore.Geo.Split
import DssStore.Geo.Area
import DssStore.Cockroach.Reads
import DssStore.Cockroach.Optimistic
import DssStore.Cockroach.Behaviour
import DssStore.ProtoStore.Writes
import DssStore.ProtoStore.Reads
import DssStore.ProtoStore.Deletes
import DssStore.ProtoStore.Isas
import DssStore.ProtoStore.Versions
import DssStore.ProtoStore.Cells
import DssStore.ProtoStore.Accepted
import DssStore.Models.Isa
