import Zmq4.Basic
import Zmq4.SimpleProxy
import Zmq4.Proxy.Model
import Zmq4.Proxy.Flow
import Zmq4.Proxy.Shutdown
import Zmq4.Monitor
import Zmq4.Networking.Transport
import Zmq4.Networking.Messaging
import Zmq4.Networking.Retry
import Zmq4.Networking.Registry
import Zmq4.Auth
import Zmq4.Monitor.Lifetime
import Zmq4.Auth.Simple
import Zmq4.Proxy.Progress
import Zmq4.Networking.Receive
