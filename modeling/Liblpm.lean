import Liblpm.Construction.Ipaddress
import Liblpm.Construction.Exceptions
import Liblpm.Construction.Engine
import Liblpm.Construction.Table
import Liblpm.Construction.ReferenceEngine
import Liblpm.Proof.Methods
import Liblpm.Proof.Lifecycle
import Liblpm.Proof.Batch
import Liblpm.Proof.Routing
import Liblpm.Proof.Reachable
import Liblpm.Proof.Raises
import Liblpm.Proof.HandleLog
import Liblpm.Proof.ContextManager
