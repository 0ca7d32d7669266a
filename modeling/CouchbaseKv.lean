import CouchbaseKv.Shared.Bytes
import CouchbaseKv.Shared.Protocol
import CouchbaseKv.Shared.Mcreq
import CouchbaseKv.Operations.Remove
import CouchbaseKv.Operations.Touch
import CouchbaseKv.Operations.Collections
import CouchbaseKv.Wire.KeyValue
import CouchbaseKv.Io.PrintBuf
import CouchbaseKv.Scheduling.Run
import CouchbaseKv.Io.Heap
import CouchbaseKv.Wire.Stream
import CouchbaseKv.Scheduling.Accounting
import CouchbaseKv.Api.Commands
