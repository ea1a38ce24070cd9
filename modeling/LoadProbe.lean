import LoadProbe.KeyStore.Faulty
import LoadProbe.KeyStore.Sessions
import LoadProbe.Main
import LoadProbe.Proofs.Arithmetic.Budget
import LoadProbe.Proofs.Collector.Node
import LoadProbe.Proofs.Distribution.BlankLines
import LoadProbe.Proofs.Distribution.Quantile
import LoadProbe.Proofs.Distribution.Sheet
import LoadProbe.Proofs.Emulation.Surroundings
import LoadProbe.Proofs.Emulation.Target
import LoadProbe.Proofs.Endpoint.Forwarding
import LoadProbe.Proofs.Endpoint.Times
import LoadProbe.Proofs.KeyStore.Interleaving
import LoadProbe.Proofs.KeyStore.Password
import LoadProbe.Proofs.KeyStore.Redirection
import LoadProbe.Proofs.KeyStore.Runs
import LoadProbe.Proofs.KeyStore.SessionRun
import LoadProbe.Proofs.Service.FailedLoads
import LoadProbe.Proofs.SizeTable.Choice
