import Hivecog.Basic
import Hivecog.AtomSpace
import Hivecog.Topology
import Hivecog.Engine
import Hivecog.Message
import Hivecog.Coordinator
import Hivecog.Hive
import Hivecog.Knowledge
import Hivecog.Frame
import Hivecog.Healing
import Hivecog.Sequence
import Hivecog.Cycle
import Hivecog.Emergence
import Hivecog.Bounds
import Hivecog.TopologyView
import Hivecog.AtomIds
import Hivecog.Load
import Hivecog.Bootstrap
import Hivecog.Feedforward
import Hivecog.Equilibrium
import Hivecog.Homeostatic
import Hivecog.Agency
import Hivecog.Vortex
import Hivecog.BootstrapEngine
import Hivecog.Training
import Hivecog.Anticipation
import Hivecog.SelfMaintenance
import Hivecog.Planetary
