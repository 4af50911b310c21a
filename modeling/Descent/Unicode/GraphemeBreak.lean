import Descent.Unicode.CodeSet
import Descent.Unicode.Partition

set_option autoImplicit false

/-!
The data for cutting text into grapheme clusters.
-/

namespace Descent.Unicode

/-- Where grapheme clusters break, from code point zero on, by the short names of the values. -/
def graphemeBreak : Partition := .ofRuns
  ["CN=a LF=1 CN=2 CR=1 CN=i XX=2n CN=x XX=d CN=1 XX=gi EX=34 XX=7n EX=7 XX=7b EX=19 XX=1 EX=1",
   "XX=1 EX=2 XX=1 EX=2 XX=1 EX=1 XX=1k PP=6 XX=a EX=b XX=1 CN=1 XX=1a EX=l XX=g EX=1 XX=2t EX=7",
   "PP=1 XX=1 EX=6 XX=2 EX=2 XX=1 EX=4 XX=x PP=1 XX=1 EX=1 XX=u EX=r XX=2j EX=b XX=1m EX=9 XX=9",
   "EX=1 XX=o EX=4 XX=1 EX=9 XX=1 EX=3 XX=1 EX=5 XX=17 EX=3 XX=1g PP=2 XX=5 EX=9 XX=16 EX=o PP=1",
   "EX=w SM=1 XX=1i EX=1 SM=1 EX=1 XX=1 SM=3 EX=8 SM=4 EX=1 SM=2 XX=1 EX=7 XX=a EX=2 XX=t EX=1",
   "SM=2 XX=1k EX=1 XX=1 EX=1 SM=2 EX=4 XX=2 SM=2 XX=2 SM=2 EX=1 XX=9 EX=1 XX=a EX=2 XX=q EX=1",
   "XX=2 EX=2 SM=1 XX=1k EX=1 XX=1 SM=3 EX=2 XX=4 EX=2 XX=2 EX=3 XX=3 EX=1 XX=u EX=2 XX=3 EX=1",
   "XX=b EX=2 SM=1 XX=1k EX=1 XX=1 SM=3 EX=5 XX=1 EX=2 SM=1 XX=1 SM=2 EX=1 XX=k EX=2 XX=m EX=6",
   "XX=1 EX=1 SM=2 XX=1k EX=1 XX=1 EX=2 SM=1 EX=4 XX=2 SM=2 XX=2 SM=2 EX=1 XX=7 EX=3 XX=a EX=2",
   "XX=u EX=1 XX=1n EX=1 SM=1 EX=1 SM=2 XX=3 SM=3 XX=1 SM=3 EX=1 XX=9 EX=1 XX=14 EX=1 SM=3 EX=1",
   "XX=1j EX=1 XX=1 EX=3 SM=4 XX=1 EX=3 XX=1 EX=4 XX=7 EX=2 XX=b EX=2 XX=t EX=1 SM=2 XX=1k EX=1",
   "XX=1 SM=1 EX=2 SM=1 EX=1 SM=2 XX=1 EX=3 XX=1 EX=4 XX=7 EX=2 XX=b EX=2 XX=f SM=1 XX=c EX=2",
   "SM=2 XX=1j EX=2 XX=1 EX=1 SM=2 EX=4 XX=1 SM=3 XX=1 SM=3 EX=1 PP=1 XX=8 EX=1 XX=a EX=2 XX=t",
   "EX=1 SM=2 XX=1y EX=1 XX=4 EX=1 SM=2 EX=3 XX=1 EX=1 XX=1 SM=7 EX=1 XX=i SM=2 XX=1p EX=1 XX=1",
   "SM=1 EX=7 XX=c EX=8 XX=2q EX=1 XX=1 SM=1 EX=9 XX=b EX=7 XX=21 EX=2 XX=r EX=1 XX=1 EX=1 XX=1",
   "EX=1 XX=4 SM=2 XX=1d EX=e SM=1 EX=5 XX=1 EX=2 XX=5 EX=b XX=1 EX=10 XX=9 EX=1 XX=2u EX=4 SM=1",
   "EX=6 XX=1 EX=2 SM=2 EX=2 XX=n SM=2 EX=2 XX=4 EX=3 XX=g EX=4 XX=d EX=1 XX=1 SM=1 EX=2 XX=6",
   "EX=1 XX=f EX=1 XX=2q L=2o V=20 T=2g XX=9p EX=3 XX=qa EX=4 XX=s EX=3 XX=t EX=2 XX=u EX=2",
   "XX=1s EX=2 SM=1 EX=7 SM=8 EX=1 SM=2 EX=b XX=9 EX=1 XX=19 EX=3 CN=1 EX=1 XX=39 EX=2 XX=y EX=1",
   "XX=3a EX=3 SM=4 EX=2 SM=3 XX=4 SM=2 EX=1 SM=6 EX=3 XX=63 EX=2 SM=2 EX=1 XX=1l SM=1 EX=1 SM=1",
   "EX=7 XX=1 EX=1 XX=1 EX=1 XX=2 EX=8 SM=6 EX=a XX=2 EX=1 XX=1c EX=1a XX=2 EX=c XX=k EX=4 SM=1",
   "XX=1b EX=a SM=4 EX=3 XX=12 EX=9 XX=c EX=2 SM=1 XX=u SM=1 EX=4 SM=2 EX=6 XX=1k EX=1 SM=1 EX=2",
   "SM=3 EX=1 SM=1 EX=5 XX=1c SM=8 EX=8 SM=2 EX=2 XX=48 EX=3 XX=1 EX=d SM=1 EX=7 XX=4 EX=1 XX=6",
   "EX=1 XX=2 SM=1 EX=2 XX=5i EX=1s XX=ej CN=1 EX=1 ZWJ=1 CN=2 XX=o CN=7 XX=1d CN=g XX=2o EX=x",
   "XX=2da EX=3 XX=3x EX=1 XX=2o EX=w XX=fe EX=6 XX=2x EX=2 XX=n9w EX=4 XX=1 EX=a XX=w EX=2",
   "XX=28 EX=2 XX=7k EX=1 XX=3 EX=1 XX=4 EX=1 XX=n SM=2 EX=2 SM=1 XX=4 EX=1 XX=2b SM=2 XX=1e",
   "SM=g EX=2 XX=q EX=i XX=d EX=1 XX=12 EX=8 XX=p EX=b SM=1 EX=1 XX=c L=t XX=3 EX=3 SM=1 XX=1b",
   "EX=1 SM=2 EX=4 SM=2 EX=2 SM=2 EX=1 XX=10 EX=1 XX=1v EX=6 SM=2 EX=2 SM=2 EX=2 XX=c EX=1 XX=8",
   "EX=1 SM=1 XX=1a EX=1 XX=1f EX=1 XX=1 EX=3 XX=2 EX=2 XX=5 EX=2 XX=1 EX=1 XX=15 SM=1 EX=2 SM=2",
   "XX=5 SM=1 EX=1 XX=6k SM=2 EX=1 SM=2 EX=1 SM=2 XX=1 SM=1 EX=1 XX=i LV=1 LVT=r LV=1 LVT=r LV=1",
   "LVT=r LV=1 LVT=r LV=1 LVT=r LV=1 LVT=r LV=1 LVT=r LV=1 LVT=r LV=1 LVT=r LV=1 LVT=r LV=1",
   "LVT=r LV=1 LVT=r LV=1 LVT=r LV=1 LVT=r LV=1 LVT=r LV=1 LVT=r LV=1 LVT=r LV=1 LVT=r LV=1",
   "LVT=r LV=1 LVT=r LV=1 LVT=r LV=1 LVT=r LV=1 LVT=r LV=1 LVT=r LV=1 LVT=r LV=1 LVT=r LV=1",
   "LVT=r LV=1 LVT=r LV=1 LVT=r LV=1 LVT=r LV=1 LVT=r LV=1 LVT=r LV=1 LVT=r LV=1 LVT=r LV=1",
   "LVT=r LV=1 LVT=r LV=1 LVT=r LV=1 LVT=r LV=1 LVT=r LV=1 LVT=r LV=1 LVT=r LV=1 LVT=r LV=1",
   "LVT=r LV=1 LVT=r LV=1 LVT=r LV=1 LVT=r LV=1 LVT=r LV=1 LVT=r LV=1 LVT=r LV=1 LVT=r LV=1",
   "LVT=r LV=1 LVT=r LV=1 LVT=r LV=1 LVT=r LV=1 LVT=r LV=1 LVT=r LV=1 LVT=r LV=1 LVT=r LV=1",
   "LVT=r LV=1 LVT=r LV=1 LVT=r LV=1 LVT=r LV=1 LVT=r LV=1 LVT=r LV=1 LVT=r LV=1 LVT=r LV=1",
   "LVT=r LV=1 LVT=r LV=1 LVT=r LV=1 LVT=r LV=1 LVT=r LV=1 LVT=r LV=1 LVT=r LV=1 LVT=r LV=1",
   "LVT=r LV=1 LVT=r LV=1 LVT=r LV=1 LVT=r LV=1 LVT=r LV=1 LVT=r LV=1 LVT=r LV=1 LVT=r LV=1",
   "LVT=r LV=1 LVT=r LV=1 LVT=r LV=1 LVT=r LV=1 LVT=r LV=1 LVT=r LV=1 LVT=r LV=1 LVT=r LV=1",
   "LVT=r LV=1 LVT=r LV=1 LVT=r LV=1 LVT=r LV=1 LVT=r LV=1 LVT=r LV=1 LVT=r LV=1 LVT=r LV=1",
   "LVT=r LV=1 LVT=r LV=1 LVT=r LV=1 LVT=r LV=1 LVT=r LV=1 LVT=r LV=1 LVT=r LV=1 LVT=r LV=1",
   "LVT=r LV=1 LVT=r LV=1 LVT=r LV=1 LVT=r LV=1 LVT=r LV=1 LVT=r LV=1 LVT=r LV=1 LVT=r LV=1",
   "LVT=r LV=1 LVT=r LV=1 LVT=r LV=1 LVT=r LV=1 LVT=r LV=1 LVT=r LV=1 LVT=r LV=1 LVT=r LV=1",
   "LVT=r LV=1 LVT=r LV=1 LVT=r LV=1 LVT=r LV=1 LVT=r LV=1 LVT=r LV=1 LVT=r LV=1 LVT=r LV=1",
   "LVT=r LV=1 LVT=r LV=1 LVT=r LV=1 LVT=r LV=1 LVT=r LV=1 LVT=r LV=1 LVT=r LV=1 LVT=r LV=1",
   "LVT=r LV=1 LVT=r LV=1 LVT=r LV=1 LVT=r LV=1 LVT=r LV=1 LVT=r LV=1 LVT=r LV=1 LVT=r LV=1",
   "LVT=r LV=1 LVT=r LV=1 LVT=r LV=1 LVT=r LV=1 LVT=r LV=1 LVT=r LV=1 LVT=r LV=1 LVT=r LV=1",
   "LVT=r LV=1 LVT=r LV=1 LVT=r LV=1 LVT=r LV=1 LVT=r LV=1 LVT=r LV=1 LVT=r LV=1 LVT=r LV=1",
   "LVT=r LV=1 LVT=r LV=1 LVT=r LV=1 LVT=r LV=1 LVT=r LV=1 LVT=r LV=1 LVT=r LV=1 LVT=r LV=1",
   "LVT=r LV=1 LVT=r LV=1 LVT=r LV=1 LVT=r LV=1 LVT=r LV=1 LVT=r LV=1 LVT=r LV=1 LVT=r LV=1",
   "LVT=r LV=1 LVT=r LV=1 LVT=r LV=1 LVT=r LV=1 LVT=r LV=1 LVT=r LV=1 LVT=r LV=1 LVT=r LV=1",
   "LVT=r LV=1 LVT=r LV=1 LVT=r LV=1 LVT=r LV=1 LVT=r LV=1 LVT=r LV=1 LVT=r LV=1 LVT=r LV=1",
   "LVT=r LV=1 LVT=r LV=1 LVT=r LV=1 LVT=r LV=1 LVT=r LV=1 LVT=r LV=1 LVT=r LV=1 LVT=r LV=1",
   "LVT=r LV=1 LVT=r LV=1 LVT=r LV=1 LVT=r LV=1 LVT=r LV=1 LVT=r LV=1 LVT=r LV=1 LVT=r LV=1",
   "LVT=r LV=1 LVT=r LV=1 LVT=r LV=1 LVT=r LV=1 LVT=r LV=1 LVT=r LV=1 LVT=r LV=1 LVT=r LV=1",
   "LVT=r LV=1 LVT=r LV=1 LVT=r LV=1 LVT=r LV=1 LVT=r LV=1 LVT=r LV=1 LVT=r LV=1 LVT=r LV=1",
   "LVT=r LV=1 LVT=r LV=1 LVT=r LV=1 LVT=r LV=1 LVT=r LV=1 LVT=r LV=1 LVT=r LV=1 LVT=r LV=1",
   "LVT=r LV=1 LVT=r LV=1 LVT=r LV=1 LVT=r LV=1 LVT=r LV=1 LVT=r LV=1 LVT=r LV=1 LVT=r LV=1",
   "LVT=r LV=1 LVT=r LV=1 LVT=r LV=1 LVT=r LV=1 LVT=r LV=1 LVT=r LV=1 LVT=r LV=1 LVT=r LV=1",
   "LVT=r LV=1 LVT=r LV=1 LVT=r LV=1 LVT=r LV=1 LVT=r LV=1 LVT=r LV=1 LVT=r LV=1 LVT=r LV=1",
   "LVT=r LV=1 LVT=r LV=1 LVT=r LV=1 LVT=r LV=1 LVT=r LV=1 LVT=r LV=1 LVT=r LV=1 LVT=r LV=1",
   "LVT=r LV=1 LVT=r LV=1 LVT=r LV=1 LVT=r LV=1 LVT=r LV=1 LVT=r LV=1 LVT=r LV=1 LVT=r LV=1",
   "LVT=r LV=1 LVT=r LV=1 LVT=r LV=1 LVT=r LV=1 LVT=r LV=1 LVT=r LV=1 LVT=r LV=1 LVT=r LV=1",
   "LVT=r LV=1 LVT=r LV=1 LVT=r LV=1 LVT=r LV=1 LVT=r LV=1 LVT=r LV=1 LVT=r LV=1 LVT=r LV=1",
   "LVT=r LV=1 LVT=r LV=1 LVT=r LV=1 LVT=r LV=1 LVT=r LV=1 LVT=r LV=1 LVT=r LV=1 LVT=r LV=1",
   "LVT=r LV=1 LVT=r LV=1 LVT=r LV=1 LVT=r LV=1 LVT=r LV=1 LVT=r LV=1 LVT=r LV=1 LVT=r LV=1",
   "LVT=r LV=1 LVT=r LV=1 LVT=r LV=1 LVT=r LV=1 LVT=r LV=1 LVT=r LV=1 LVT=r LV=1 LVT=r LV=1",
   "LVT=r LV=1 LVT=r LV=1 LVT=r LV=1 LVT=r LV=1 LVT=r LV=1 LVT=r LV=1 LVT=r LV=1 LVT=r LV=1",
   "LVT=r LV=1 LVT=r LV=1 LVT=r LV=1 LVT=r LV=1 LVT=r LV=1 LVT=r LV=1 LVT=r LV=1 LVT=r LV=1",
   "LVT=r LV=1 LVT=r LV=1 LVT=r LV=1 LVT=r LV=1 LVT=r LV=1 LVT=r LV=1 LVT=r LV=1 LVT=r LV=1",
   "LVT=r LV=1 LVT=r LV=1 LVT=r LV=1 LVT=r LV=1 LVT=r LV=1 LVT=r LV=1 LVT=r LV=1 LVT=r LV=1",
   "LVT=r LV=1 LVT=r LV=1 LVT=r LV=1 LVT=r LV=1 LVT=r LV=1 LVT=r LV=1 LVT=r LV=1 LVT=r LV=1",
   "LVT=r LV=1 LVT=r LV=1 LVT=r LV=1 LVT=r LV=1 LVT=r LV=1 LVT=r LV=1 LVT=r LV=1 LVT=r LV=1",
   "LVT=r LV=1 LVT=r LV=1 LVT=r LV=1 LVT=r LV=1 LVT=r LV=1 LVT=r LV=1 LVT=r LV=1 LVT=r LV=1",
   "LVT=r LV=1 LVT=r LV=1 LVT=r LV=1 LVT=r LV=1 LVT=r LV=1 LVT=r LV=1 LVT=r LV=1 LVT=r LV=1",
   "LVT=r LV=1 LVT=r LV=1 LVT=r LV=1 LVT=r LV=1 LVT=r LV=1 LVT=r LV=1 LVT=r LV=1 LVT=r LV=1",
   "LVT=r LV=1 LVT=r LV=1 LVT=r LV=1 LVT=r LV=1 LVT=r LV=1 LVT=r LV=1 LVT=r LV=1 LVT=r LV=1",
   "LVT=r LV=1 LVT=r LV=1 LVT=r LV=1 LVT=r LV=1 LVT=r XX=c V=n XX=4 T=1d XX=4 CN=1kw XX=5cu EX=1",
   "XX=kh EX=g XX=g EX=g XX=5r CN=1 XX=4e EX=2 XX=28 CN=c XX=e9 EX=1 XX=6a EX=1 XX=45 EX=5",
   "XX=1ae EX=3 XX=1 EX=2 XX=5 EX=4 XX=14 EX=3 XX=4 EX=1 XX=4l EX=2 XX=fx EX=4 XX=1t EX=5 XX=8t",
   "EX=2 XX=25 EX=6 XX=1y EX=b XX=1d EX=4 XX=3e SM=1 EX=1 SM=1 XX=1h EX=f XX=15 EX=1 XX=2 EX=2",
   "XX=a EX=3 SM=1 XX=19 SM=3 EX=4 SM=2 EX=2 XX=2 PP=1 XX=4 EX=1 XX=a PP=1 XX=1e EX=3 XX=10 EX=5",
   "SM=1 EX=8 XX=g SM=2 XX=18 EX=1 XX=c EX=2 SM=1 XX=1c SM=3 EX=9 SM=1 EX=1 XX=1 PP=2 XX=5 EX=4",
   "XX=1 SM=1 EX=1 XX=2k SM=3 EX=3 SM=2 EX=4 XX=6 EX=1 XX=2 EX=1 XX=4d EX=1 SM=3 EX=8 XX=l EX=2",
   "SM=2 XX=1j EX=2 XX=1 EX=1 SM=1 EX=1 SM=4 XX=2 SM=2 XX=2 SM=2 EX=1 XX=9 EX=1 XX=a SM=2 XX=2",
   "EX=7 XX=3 EX=5 XX=1v EX=1 SM=2 EX=6 XX=1 EX=1 XX=2 EX=1 XX=1 EX=3 SM=1 XX=1 SM=2 EX=3 PP=1",
   "EX=1 XX=e EX=2 XX=2a SM=3 EX=8 SM=2 EX=3 SM=1 EX=1 XX=n EX=1 XX=29 EX=1 SM=2 EX=6 SM=1 EX=1",
   "SM=2 EX=1 SM=1 EX=2 SM=1 EX=2 XX=6j EX=1 SM=2 EX=4 XX=2 SM=4 EX=2 SM=1 EX=2 XX=r EX=2 XX=2a",
   "SM=3 EX=8 SM=2 EX=1 SM=1 EX=2 XX=2y EX=1 SM=1 EX=1 SM=2 EX=8 XX=2t EX=1 SM=1 EX=1 XX=2 EX=4",
   "SM=1 EX=5 XX=74 SM=3 EX=9 SM=1 EX=2 XX=6t EX=1 SM=5 XX=1 SM=2 XX=2 EX=4 PP=1 SM=1 PP=1 SM=1",
   "EX=1 XX=3x SM=3 EX=4 XX=2 EX=2 SM=4 EX=1 XX=3 SM=1 XX=s EX=a XX=14 EX=6 SM=1 XX=1 EX=4 XX=8",
   "EX=1 XX=9 EX=6 SM=2 EX=3 XX=14 PP=6 EX=d SM=1 EX=2 XX=5i EX=1 SM=1 EX=3 SM=1 EX=1 SM=1 XX=5j",
   "SM=1 EX=7 XX=1 EX=6 SM=1 EX=1 XX=2a EX=m XX=1 SM=1 EX=7 SM=1 EX=2 SM=1 EX=2 XX=3e EX=6 XX=3",
   "EX=1 XX=1 EX=2 XX=1 EX=7 PP=1 EX=1 XX=1u SM=5 XX=1 EX=2 XX=1 SM=2 EX=1 SM=1 EX=1 XX=9n EX=2",
   "SM=2 XX=9 EX=2 PP=1 SM=1 XX=1c SM=2 EX=5 XX=3 SM=2 EX=3 XX=n EX=1 XX=445 CN=g EX=1 XX=6 EX=f",
   "XX=8ug EX=c SM=3 EX=3 XX=1xc EX=5 XX=1n EX=7 XX=fg V=1 XX=3 V=4 XX=dg EX=1 XX=1 SM=1j XX=7",
   "EX=4 XX=29 EX=1 XX=b EX=2 XX=f57 EX=2 XX=1 CN=4 XX=3mk EX=1a XX=2 EX=n XX=f2 EX=5 XX=3 EX=6",
   "CN=8 EX=8 XX=2 EX=7 XX=u EX=4 XX=44 EX=3 XX=1iz EX=1j XX=4 EX=1e XX=8 EX=1 XX=e EX=1 XX=m",
   "EX=5 XX=1 EX=f XX=11s EX=7 XX=1 EX=h XX=2 EX=7 XX=1 EX=2 XX=1 EX=5 XX=2s EX=1 XX=4g EX=7",
   "XX=af EX=1 XX=1p EX=4 XX=e4 EX=4 XX=72 EX=2 XX=6r EX=1 XX=2 EX=1 XX=7 EX=2 XX=5 EX=1 XX=d6",
   "EX=7 XX=31 EX=7 XX=1p7 RI=q XX=e3 EX=5 XX=gx6o CN=w EX=2o CN=3k EX=6o CN=2s0 XX=44jk"]

/-- The consonants that a linker can join to a following consonant in one cluster. -/
def conjunctConsonant : CodeSet := .ofRuns
  ["1sl 11 u 8 o 8 l k 1 7 1 1 3 4 y 2 1 1 g 2 4j k 1 7 1 2 1 5 1r 1 r k 1 7 1 2 1 5 y 2 1 1 h 1",
   "4j k 1 g u 3 56 12 jp 17 k 1 g 6 4 4 3 1 3 2 7 3 4 d c 1 1dd 1g h8 1h 52 2 6 x h 8 1i u d 2",
   "b 3 s0b 3 3 10 19 5 2 9 a 5 2p g 1 3 6 1 3 2 2o b 5x r ilh 1 f 4 1 3 1 t 1cd 10 t 1 2 1 fs a",
   "1 1 2 1 1 12 11m 7 2 1 2 8 1 2 1 o 5s 1 a 14 t 1 b 14 w0 d 1 y"]

/-- The signs that join the consonants around them. -/
def conjunctLinker : CodeSet := .ofRuns
  ["1u5 1 3j 1 73 1 3j 1 73 1 73 1 kr 1 1i0 1 i5 1 6b 1 2u 1 s2c 1 8l 1 itk 1 1df 1 ik 1 12l 1",
   "7c 1 29 1 x4 1"]

end Descent.Unicode
