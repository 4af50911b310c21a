import Descent.Unicode.Partition

set_option autoImplicit false

/-!
The break classes of words and sentences.
-/

namespace Descent.Unicode

/-- Where words break, by the short names of the values. -/
def wordBreak : Partition := .ofRuns
  ["XX=a LF=1 NL=2 CR=1 XX=i WSegSpace=1 XX=1 DQ=1 XX=4 SQ=1 XX=4 MN=1 XX=1 MB=1 XX=1 NU=a ML=1",
   "MN=1 XX=5 LE=q XX=4 EX=1 XX=1 LE=q XX=a NL=1 XX=10 LE=1 XX=2 FO=1 XX=7 LE=1 XX=1 ML=1 XX=2",
   "LE=1 XX=5 LE=n XX=1 LE=v XX=1 LE=dc XX=6 LE=y Extend=34 LE=5 XX=1 LE=2 XX=2 LE=4 MN=1 LE=1",
   "XX=6 LE=1 ML=1 LE=3 XX=1 LE=1 XX=1 LE=k XX=1 LE=2b XX=1 LE=3v XX=1 Extend=7 LE=4m XX=1 LE=12",
   "XX=2 LE=4 XX=1 LE=1 ML=1 LE=15 MN=1 LE=1 XX=6 Extend=19 XX=1 Extend=1 XX=1 Extend=2 XX=1",
   "Extend=2 XX=1 Extend=1 XX=8 HL=r XX=4 HL=4 LE=1 ML=1 XX=b FO=6 XX=6 MN=2 XX=2 Extend=b XX=1",
   "FO=1 XX=3 LE=17 Extend=l NU=a XX=1 NU=1 MN=1 XX=1 LE=2 Extend=1 LE=2r XX=1 LE=1 Extend=7",
   "FO=1 XX=1 Extend=6 LE=2 Extend=2 XX=1 Extend=4 LE=2 NU=a LE=3 XX=2 LE=1 XX=f FO=1 LE=1",
   "Extend=1 LE=u Extend=r XX=2 LE=2h Extend=b LE=1 XX=e NU=a LE=x Extend=9 LE=2 XX=2 MN=1 XX=1",
   "LE=1 XX=2 Extend=1 XX=2 LE=m Extend=4 LE=1 Extend=9 LE=1 Extend=3 LE=1 Extend=5 XX=i LE=p",
   "Extend=3 XX=4 LE=b XX=5 LE=o XX=1 LE=7 FO=2 XX=5 Extend=9 LE=16 Extend=o FO=1 Extend=x LE=1i",
   "Extend=3 LE=1 Extend=i LE=1 Extend=7 LE=a Extend=2 XX=2 NU=a XX=1 LE=g Extend=3 XX=1 LE=8",
   "XX=2 LE=2 XX=2 LE=m XX=1 LE=7 XX=1 LE=1 XX=3 LE=4 XX=2 Extend=1 LE=1 Extend=7 XX=2 Extend=2",
   "XX=2 Extend=3 LE=1 XX=8 Extend=1 XX=4 LE=2 XX=1 LE=3 Extend=2 XX=2 NU=a LE=2 XX=a LE=1 XX=1",
   "Extend=1 XX=2 Extend=3 XX=1 LE=6 XX=4 LE=2 XX=2 LE=m XX=1 LE=7 XX=1 LE=2 XX=1 LE=2 XX=1 LE=2",
   "XX=2 Extend=1 XX=1 Extend=5 XX=4 Extend=2 XX=2 Extend=3 XX=3 Extend=1 XX=7 LE=4 XX=1 LE=1",
   "XX=7 NU=a Extend=2 LE=3 Extend=1 XX=b Extend=3 XX=1 LE=9 XX=1 LE=3 XX=1 LE=m XX=1 LE=7 XX=1",
   "LE=2 XX=1 LE=5 XX=2 Extend=1 LE=1 Extend=8 XX=1 Extend=3 XX=1 Extend=3 XX=2 LE=1 XX=f LE=2",
   "Extend=2 XX=2 NU=a XX=9 LE=1 Extend=6 XX=1 Extend=3 XX=1 LE=8 XX=2 LE=2 XX=2 LE=m XX=1 LE=7",
   "XX=1 LE=2 XX=1 LE=5 XX=2 Extend=1 LE=1 Extend=7 XX=2 Extend=2 XX=2 Extend=3 XX=7 Extend=3",
   "XX=4 LE=2 XX=1 LE=3 Extend=2 XX=2 NU=a XX=1 LE=1 XX=g Extend=1 LE=1 XX=1 LE=6 XX=3 LE=3 XX=1",
   "LE=4 XX=3 LE=2 XX=1 LE=1 XX=1 LE=2 XX=3 LE=2 XX=3 LE=3 XX=3 LE=c XX=4 Extend=5 XX=3 Extend=3",
   "XX=1 Extend=4 XX=2 LE=1 XX=6 Extend=1 XX=e NU=a XX=g Extend=5 LE=8 XX=1 LE=3 XX=1 LE=n XX=1",
   "LE=g XX=2 Extend=1 LE=1 Extend=7 XX=1 Extend=3 XX=1 Extend=4 XX=7 Extend=2 XX=1 LE=3 XX=1",
   "LE=2 XX=2 LE=2 Extend=2 XX=2 NU=a XX=g LE=1 Extend=3 XX=1 LE=8 XX=1 LE=3 XX=1 LE=n XX=1 LE=a",
   "XX=1 LE=5 XX=2 Extend=1 LE=1 Extend=7 XX=1 Extend=3 XX=1 Extend=4 XX=7 Extend=2 XX=5 LE=3",
   "XX=1 LE=2 Extend=2 XX=2 NU=a XX=1 LE=2 Extend=1 XX=c Extend=4 LE=9 XX=1 LE=3 XX=1 LE=15",
   "Extend=2 LE=1 Extend=7 XX=1 Extend=3 XX=1 Extend=4 LE=1 XX=5 LE=3 Extend=1 XX=7 LE=3",
   "Extend=2 XX=2 NU=a XX=a LE=6 XX=1 Extend=3 XX=1 LE=i XX=3 LE=o XX=1 LE=9 XX=1 LE=1 XX=2 LE=7",
   "XX=3 Extend=1 XX=4 Extend=6 XX=1 Extend=1 XX=1 Extend=8 XX=6 NU=a XX=2 Extend=2 XX=1p",
   "Extend=1 XX=2 Extend=7 XX=c Extend=8 XX=1 NU=a XX=2f Extend=1 XX=2 Extend=9 XX=b Extend=7",
   "XX=1 NU=a XX=12 LE=1 XX=n Extend=2 XX=6 NU=a XX=b Extend=1 XX=1 Extend=1 XX=1 Extend=1 XX=4",
   "Extend=2 LE=8 XX=1 LE=10 XX=4 Extend=k XX=1 Extend=2 LE=5 Extend=b XX=1 Extend=10 XX=9",
   "Extend=1 XX=2s Extend=k XX=1 NU=a XX=c Extend=4 XX=4 Extend=3 XX=1 Extend=3 XX=2 Extend=7",
   "XX=3 Extend=4 XX=d Extend=c XX=1 Extend=1 NU=a Extend=4 XX=2 LE=12 XX=1 LE=1 XX=5 LE=1 XX=2",
   "LE=17 XX=1 LE=99 XX=1 LE=4 XX=2 LE=7 XX=1 LE=1 XX=1 LE=4 XX=2 LE=15 XX=1 LE=4 XX=2 LE=x XX=1",
   "LE=4 XX=2 LE=7 XX=1 LE=1 XX=1 LE=4 XX=2 LE=f XX=1 LE=1l XX=1 LE=4 XX=2 LE=1v XX=2 Extend=3",
   "XX=w LE=g XX=g LE=2e XX=2 LE=6 XX=3 LE=h8 XX=2 LE=h WSegSpace=1 LE=q XX=5 LE=23 XX=3 LE=b",
   "XX=7 LE=i Extend=4 XX=9 LE=j Extend=3 XX=b LE=i Extend=2 XX=c LE=d XX=1 LE=3 XX=1 Extend=2",
   "XX=1s Extend=w XX=9 Extend=1 XX=2 NU=a XX=x Extend=3 FO=1 Extend=1 NU=a XX=6 LE=2h XX=7 LE=5",
   "Extend=2 LE=y Extend=1 LE=1 XX=5 LE=1y XX=a LE=v XX=1 Extend=c XX=4 Extend=c XX=a NU=a XX=3k",
   "NU=a XX=12 LE=n Extend=5 XX=1l Extend=a XX=1 Extend=t XX=2 Extend=1 NU=a XX=6 NU=a XX=m",
   "Extend=1a XX=2 Extend=c XX=k Extend=5 LE=1b Extend=h LE=8 XX=3 NU=a XX=h Extend=9 XX=c",
   "Extend=3 LE=u Extend=d LE=2 NU=a LE=18 Extend=e XX=c LE=10 Extend=k XX=8 NU=a XX=3 LE=3 NU=a",
   "LE=10 XX=2 LE=b XX=5 LE=17 XX=2 LE=3 XX=g Extend=3 XX=1 Extend=l LE=4 Extend=1 LE=6 Extend=1",
   "LE=2 Extend=3 LE=1 XX=5 LE=5c Extend=1s LE=7q XX=2 LE=6 XX=2 LE=12 XX=2 LE=6 XX=2 LE=8 XX=1",
   "LE=1 XX=1 LE=1 XX=1 LE=1 XX=1 LE=v XX=2 LE=1h XX=1 LE=7 XX=1 LE=1 XX=3 LE=3 XX=1 LE=7 XX=3",
   "LE=4 XX=2 LE=6 XX=4 LE=d XX=5 LE=3 XX=1 LE=7 XX=3 WSegSpace=7 XX=1 WSegSpace=3 XX=1 Extend=1",
   "ZWJ=1 FO=2 XX=8 MB=2 XX=a MB=1 XX=2 ML=1 NL=2 FO=5 EX=1 XX=f EX=2 XX=3 MN=1 XX=f EX=1 XX=a",
   "WSegSpace=1 FO=5 XX=1 FO=a XX=1 LE=1 XX=d LE=1 XX=g LE=d XX=1f Extend=x XX=h LE=1 XX=4 LE=1",
   "XX=2 LE=a XX=1 LE=1 XX=3 LE=5 XX=6 LE=1 XX=1 LE=1 XX=1 LE=1 XX=1 LE=4 XX=1 LE=b XX=2 LE=4",
   "XX=5 LE=5 XX=4 LE=1 XX=h LE=15 XX=ml LE=1g XX=1ee LE=6d XX=6 LE=4 Extend=3 LE=2 XX=c LE=12",
   "XX=1 LE=1 XX=5 LE=1 XX=2 LE=1k XX=7 LE=1 XX=f Extend=1 LE=n XX=9 LE=7 XX=1 LE=7 XX=1 LE=7",
   "XX=1 LE=7 XX=1 LE=7 XX=1 LE=7 XX=1 LE=7 XX=1 LE=7 XX=1 Extend=w XX=1b LE=1 XX=cw WSegSpace=1",
   "XX=4 LE=1 XX=10 Extend=6 XX=1 KA=5 XX=5 LE=2 XX=2k Extend=2 KA=2 XX=3 KA=2j XX=1 KA=4 XX=5",
   "LE=17 XX=1 LE=2m XX=h LE=w XX=1c KA=g XX=5s KA=1b XX=1 KA=2g XX=lgo LE=wd XX=1v LE=1a XX=2",
   "LE=7h XX=3 LE=g NU=a LE=2 XX=k LE=1b Extend=4 XX=1 Extend=a XX=1 LE=v Extend=2 LE=28",
   "Extend=2 XX=m LE=5x XX=k LE=h Extend=1 LE=3 Extend=1 LE=4 Extend=1 LE=n Extend=5 XX=4",
   "Extend=1 XX=j LE=1g XX=c Extend=2 LE=1e Extend=i XX=a NU=a XX=6 Extend=i LE=6 XX=3 LE=1 XX=1",
   "LE=2 Extend=1 NU=a LE=s Extend=8 XX=2 LE=n Extend=d XX=c LE=t XX=3 Extend=4 LE=1b Extend=e",
   "XX=e LE=1 NU=a XX=b Extend=1 XX=a NU=a XX=6 LE=15 Extend=e XX=9 LE=3 Extend=1 LE=8 Extend=2",
   "XX=2 NU=a XX=x Extend=3 XX=1e Extend=1 XX=1 Extend=3 XX=2 Extend=2 XX=5 Extend=2 XX=1",
   "Extend=1 XX=u LE=b Extend=5 XX=2 LE=3 Extend=2 XX=a LE=6 XX=2 LE=6 XX=2 LE=6 XX=9 LE=7 XX=1",
   "LE=7 XX=1 LE=1m XX=6 LE=37 Extend=8 XX=1 Extend=2 XX=2 NU=a XX=6 LE=8mc XX=c LE=n XX=4 LE=1d",
   "XX=6x0 LE=7 XX=c LE=5 XX=5 HL=1 Extend=1 HL=a XX=1 HL=d XX=1 HL=5 XX=1 HL=1 XX=1 HL=2 XX=1",
   "HL=2 XX=1 HL=a LE=2q XX=x LE=a3 XX=i LE=1s XX=2 LE=1i XX=14 LE=c XX=4 Extend=g MN=1 XX=2",
   "ML=1 MN=1 XX=b Extend=g XX=3 EX=2 XX=o EX=3 MN=1 XX=1 MB=1 XX=1 MN=1 ML=1 XX=q LE=5 XX=1",
   "LE=3r XX=2 FO=1 XX=7 MB=1 XX=4 MN=1 XX=1 MB=1 XX=1 NU=a ML=1 MN=1 XX=5 LE=q XX=4 EX=1 XX=1",
   "LE=q XX=b KA=1k Extend=2 LE=v XX=3 LE=6 XX=2 LE=6 XX=2 LE=6 XX=2 LE=3 XX=s FO=3 XX=4 LE=c",
   "XX=1 LE=q XX=1 LE=j XX=1 LE=2 XX=1 LE=f XX=2 LE=e XX=y LE=3f XX=1x LE=1h XX=3s Extend=1",
   "XX=3m LE=t XX=3 LE=1d XX=f Extend=1 XX=v LE=w XX=d LE=u XX=5 LE=12 Extend=5 XX=5 LE=u XX=2",
   "LE=10 XX=4 LE=8 XX=1 LE=5 XX=16 LE=4e XX=2 NU=a XX=6 LE=10 XX=4 LE=10 XX=4 LE=14 XX=8 LE=1g",
   "XX=c LE=b XX=1 LE=f XX=1 LE=7 XX=1 LE=2 XX=1 LE=b XX=1 LE=f XX=1 LE=7 XX=1 LE=2 XX=3 LE=1g",
   "XX=c LE=8n XX=9 LE=m XX=a LE=8 XX=o LE=6 XX=1 LE=16 XX=1 LE=9 XX=1x LE=6 XX=2 LE=1 XX=1",
   "LE=18 XX=1 LE=2 XX=3 LE=1 XX=2 LE=n XX=a LE=n XX=9 LE=v XX=1t LE=j XX=1 LE=2 XX=a LE=m XX=a",
   "LE=q XX=6 LE=q XX=12 LE=1k XX=6 LE=2 XX=1s LE=1 Extend=3 XX=1 Extend=2 XX=5 Extend=4 LE=4",
   "XX=1 LE=3 XX=1 LE=t XX=2 Extend=3 XX=4 Extend=1 XX=w LE=t XX=3 LE=t XX=z LE=8 XX=1 LE=s",
   "Extend=2 XX=p LE=1i XX=a LE=m XX=a LE=j XX=d LE=i XX=32 LE=21 XX=1j LE=1f XX=d LE=1f XX=d",
   "LE=10 Extend=4 XX=8 NU=a XX=6 NU=a LE=s XX=3 Extend=5 XX=1 LE=n XX=6y LE=16 XX=1 Extend=2",
   "XX=3 LE=2 XX=g LE=6 XX=1e Extend=6 LE=t XX=a LE=1 XX=8 LE=m Extend=b XX=v LE=i Extend=4",
   "XX=16 LE=l XX=r LE=n XX=9 Extend=3 LE=1h Extend=f XX=v NU=a Extend=1 LE=2 Extend=2 LE=1 XX=9",
   "Extend=4 LE=19 Extend=b XX=2 FO=1 XX=4 Extend=1 XX=a FO=1 XX=2 LE=p XX=7 NU=a XX=6 Extend=3",
   "LE=10 Extend=e XX=1 NU=a XX=4 LE=1 Extend=2 LE=1 XX=8 LE=z Extend=1 XX=2 LE=1 XX=9 Extend=3",
   "LE=1c Extend=e LE=4 XX=4 Extend=4 XX=1 Extend=2 NU=a LE=1 XX=1 LE=1 XX=z LE=i XX=1 LE=p",
   "Extend=c XX=6 Extend=1 LE=2 Extend=1 XX=1q LE=7 XX=1 LE=1 XX=1 LE=4 XX=1 LE=f XX=1 LE=a XX=7",
   "LE=1b Extend=c XX=5 NU=a XX=6 Extend=4 XX=1 LE=8 XX=2 LE=2 XX=2 LE=m XX=1 LE=7 XX=1 LE=2",
   "XX=1 LE=5 XX=1 Extend=2 LE=1 Extend=7 XX=2 Extend=2 XX=2 Extend=3 XX=2 LE=1 XX=6 Extend=1",
   "XX=5 LE=5 Extend=2 XX=2 Extend=7 XX=3 Extend=5 XX=b LE=a XX=1 LE=1 XX=2 LE=1 XX=1 LE=12 XX=1",
   "LE=1 Extend=9 XX=1 Extend=1 XX=2 Extend=1 XX=1 Extend=4 XX=1 Extend=5 LE=1 Extend=1 LE=1",
   "XX=d Extend=2 XX=t LE=1h Extend=i LE=4 XX=5 NU=a XX=4 Extend=1 LE=3 XX=u LE=1c Extend=k LE=2",
   "XX=1 LE=1 XX=8 NU=a XX=4m LE=1b Extend=7 XX=2 Extend=9 XX=n LE=4 Extend=2 XX=y LE=1c",
   "Extend=h XX=3 LE=1 XX=b NU=a XX=12 LE=17 Extend=d LE=1 XX=7 NU=a XX=6 NU=k XX=1l Extend=f",
   "XX=4 NU=a XX=5i LE=18 Extend=f XX=2t LE=1s NU=a XX=l LE=8 XX=2 LE=1 XX=2 LE=8 XX=1 LE=2 XX=1",
   "LE=o Extend=6 XX=1 Extend=2 XX=2 Extend=4 LE=1 Extend=1 LE=1 Extend=2 XX=c NU=a XX=1y LE=8",
   "XX=2 LE=13 Extend=7 XX=2 Extend=7 LE=1 XX=1 LE=1 Extend=1 XX=r LE=1 Extend=a LE=14 Extend=7",
   "LE=1 Extend=4 XX=8 Extend=1 XX=8 LE=1 Extend=b LE=1a Extend=g XX=3 LE=1 XX=i LE=21 XX=2v",
   "Extend=8 XX=2g LE=x XX=f NU=a XX=6 LE=9 XX=1 LE=11 Extend=8 XX=1 Extend=8 LE=1 XX=f NU=a",
   "XX=o LE=u XX=2 Extend=m XX=1 Extend=e XX=21 LE=7 XX=1 LE=2 XX=1 LE=12 Extend=6 XX=3 Extend=1",
   "XX=1 Extend=2 XX=1 Extend=7 LE=1 Extend=1 XX=8 NU=a XX=6 LE=6 XX=1 LE=2 XX=1 LE=w Extend=5",
   "XX=1 Extend=2 XX=1 Extend=5 LE=1 XX=7 NU=a XX=6 LE=18 XX=4 NU=a XX=6u LE=j Extend=4 XX=9",
   "Extend=2 LE=1 Extend=1 LE=d XX=1 LE=y Extend=7 XX=3 Extend=5 XX=d NU=a Extend=1 XX=2d LE=1",
   "XX=27 LE=pm XX=2u LE=33 XX=h LE=5g XX=218 LE=2p XX=f LE=ts FO=g Extend=1 LE=6 Extend=f XX=a",
   "LE=32z XX=5 LE=g7 XX=5a1 LE=u Extend=i NU=a XX=1c6 LE=ft XX=7 LE=v XX=1 NU=a XX=6 LE=27 XX=1",
   "NU=a XX=6 LE=u XX=2 Extend=5 XX=b LE=1c Extend=7 XX=9 LE=4 XX=c NU=a XX=9 LE=l XX=5 LE=j",
   "XX=c0 LE=19 XX=3 NU=a XX=5i LE=1s XX=w LE=p XX=2 LE=p XX=18 LE=23 XX=4 Extend=1 LE=1",
   "Extend=1j XX=7 Extend=4 LE=d XX=1s LE=2 XX=1 LE=1 Extend=1 XX=b Extend=2 XX=cn2 KA=4 XX=1",
   "KA=7 XX=1 KA=2 XX=1 KA=1 XX=7z KA=3 XX=1e KA=1 XX=e KA=4 XX=23c LE=2z XX=5 LE=d XX=3 LE=9",
   "XX=7 LE=a XX=3 Extend=2 XX=1 FO=4 XX=37w NU=a XX=ee Extend=1a XX=2 Extend=n XX=f2 Extend=5",
   "XX=3 Extend=6 FO=8 Extend=8 XX=2 Extend=7 XX=u Extend=4 XX=44 Extend=3 XX=cb LE=2d XX=1",
   "LE=1z XX=1 LE=2 XX=2 LE=1 XX=2 LE=2 XX=2 LE=4 XX=1 LE=c XX=1 LE=1 XX=1 LE=7 XX=1 LE=1t XX=1",
   "LE=4 XX=2 LE=8 XX=1 LE=7 XX=1 LE=s XX=1 LE=4 XX=1 LE=5 XX=1 LE=1 XX=3 LE=7 XX=1 LE=9g XX=2",
   "LE=p XX=1 LE=p XX=1 LE=v XX=1 LE=p XX=1 LE=v XX=1 LE=p XX=1 LE=v XX=1 LE=p XX=1 LE=v XX=1",
   "LE=p XX=1 LE=8 XX=2 NU=1e XX=e8 Extend=1j XX=4 Extend=1e XX=8 Extend=1 XX=e Extend=1 XX=m",
   "Extend=5 XX=1 Extend=f XX=uo LE=v XX=6 LE=6 XX=5x Extend=7 XX=1 Extend=h XX=2 Extend=7 XX=1",
   "Extend=2 XX=1 Extend=5 XX=5 LE=1q XX=x Extend=1 XX=34 LE=19 XX=3 Extend=7 LE=7 XX=2 NU=a",
   "XX=4 LE=1 XX=8x LE=u Extend=1 XX=h LE=18 Extend=4 NU=a XX=d2 LE=s Extend=4 NU=a XX=5y LE=u",
   "Extend=2 LE=1 NU=a XX=5h LE=v XX=1 LE=3 Extend=1 LE=2 Extend=1 LE=7 Extend=2 LE=5 Extend=1",
   "XX=8 LE=2 XX=68 LE=7 XX=1 LE=4 XX=1 LE=2 XX=1 LE=f XX=1 LE=5h XX=b Extend=7 XX=15 LE=1w",
   "Extend=7 LE=1 XX=4 NU=a XX=x2 LE=4 XX=1 LE=r XX=1 LE=2 XX=1 LE=1 XX=2 LE=1 XX=1 LE=a XX=1",
   "LE=4 XX=1 LE=1 XX=1 LE=1 XX=6 LE=1 XX=4 LE=1 XX=1 LE=1 XX=1 LE=1 XX=1 LE=3 XX=1 LE=2 XX=1",
   "LE=1 XX=2 LE=1 XX=1 LE=1 XX=1 LE=1 XX=1 LE=1 XX=1 LE=1 XX=1 LE=2 XX=1 LE=1 XX=2 LE=4 XX=1",
   "LE=7 XX=1 LE=4 XX=1 LE=4 XX=1 LE=1 XX=1 LE=a XX=1 LE=h XX=5 LE=3 XX=1 LE=5 XX=1 LE=h XX=hg",
   "LE=q XX=6 LE=q XX=6 LE=q XX=2k RI=q XX=e3 Extend=5 XX=1kg NU=a XX=gvlz FO=1 XX=u Extend=2o",
   "XX=3k Extend=6o XX=47bk"]

/-- Where sentences break, by the short names of the values. -/
def sentenceBreak : Partition := .ofRuns
  ["XX=9 SP=1 LF=1 SP=2 CR=1 XX=i SP=1 ST=1 CL=1 XX=4 CL=3 XX=2 SC=2 AT=1 XX=1 NU=a SC=1 XX=4",
   "ST=1 XX=1 UP=q CL=1 XX=1 CL=1 XX=3 LO=q CL=1 XX=1 CL=1 XX=7 SE=1 XX=q SP=1 XX=9 LO=1 CL=1",
   "XX=1 FO=1 XX=7 LO=1 XX=4 LO=1 CL=1 XX=4 UP=n XX=1 UP=7 LO=o XX=1 LO=8 UP=1 LO=1 UP=1 LO=1",
   "UP=1 LO=1 UP=1 LO=1 UP=1 LO=1 UP=1 LO=1 UP=1 LO=1 UP=1 LO=1 UP=1 LO=1 UP=1 LO=1 UP=1 LO=1",
   "UP=1 LO=1 UP=1 LO=1 UP=1 LO=1 UP=1 LO=1 UP=1 LO=1 UP=1 LO=1 UP=1 LO=1 UP=1 LO=1 UP=1 LO=1",
   "UP=1 LO=1 UP=1 LO=1 UP=1 LO=1 UP=1 LO=1 UP=1 LO=1 UP=1 LO=1 UP=1 LO=1 UP=1 LO=2 UP=1 LO=1",
   "UP=1 LO=1 UP=1 LO=1 UP=1 LO=1 UP=1 LO=1 UP=1 LO=1 UP=1 LO=1 UP=1 LO=2 UP=1 LO=1 UP=1 LO=1",
   "UP=1 LO=1 UP=1 LO=1 UP=1 LO=1 UP=1 LO=1 UP=1 LO=1 UP=1 LO=1 UP=1 LO=1 UP=1 LO=1 UP=1 LO=1",
   "UP=1 LO=1 UP=1 LO=1 UP=1 LO=1 UP=1 LO=1 UP=1 LO=1 UP=1 LO=1 UP=1 LO=1 UP=1 LO=1 UP=1 LO=1",
   "UP=1 LO=1 UP=1 LO=1 UP=1 LO=1 UP=2 LO=1 UP=1 LO=1 UP=1 LO=3 UP=2 LO=1 UP=1 LO=1 UP=2 LO=1",
   "UP=3 LO=2 UP=4 LO=1 UP=2 LO=1 UP=3 LO=3 UP=2 LO=1 UP=2 LO=1 UP=1 LO=1 UP=1 LO=1 UP=2 LO=1",
   "UP=1 LO=2 UP=1 LO=1 UP=2 LO=1 UP=3 LO=1 UP=1 LO=1 UP=2 LO=2 LE=1 UP=1 LO=3 LE=4 UP=2 LO=1",
   "UP=2 LO=1 UP=2 LO=1 UP=1 LO=1 UP=1 LO=1 UP=1 LO=1 UP=1 LO=1 UP=1 LO=1 UP=1 LO=1 UP=1 LO=1",
   "UP=1 LO=2 UP=1 LO=1 UP=1 LO=1 UP=1 LO=1 UP=1 LO=1 UP=1 LO=1 UP=1 LO=1 UP=1 LO=1 UP=1 LO=1",
   "UP=1 LO=2 UP=2 LO=1 UP=1 LO=1 UP=3 LO=1 UP=1 LO=1 UP=1 LO=1 UP=1 LO=1 UP=1 LO=1 UP=1 LO=1",
   "UP=1 LO=1 UP=1 LO=1 UP=1 LO=1 UP=1 LO=1 UP=1 LO=1 UP=1 LO=1 UP=1 LO=1 UP=1 LO=1 UP=1 LO=1",
   "UP=1 LO=1 UP=1 LO=1 UP=1 LO=1 UP=1 LO=1 UP=1 LO=1 UP=1 LO=1 UP=1 LO=1 UP=1 LO=1 UP=1 LO=1",
   "UP=1 LO=1 UP=1 LO=1 UP=1 LO=1 UP=1 LO=1 UP=1 LO=1 UP=1 LO=7 UP=2 LO=1 UP=2 LO=2 UP=1 LO=1",
   "UP=4 LO=1 UP=1 LO=1 UP=1 LO=1 UP=1 LO=1 UP=1 LO=1x LE=1 LO=10 LE=7 LO=2 XX=4 LE=c XX=e LO=5",
   "XX=7 LE=1 XX=1 LE=1 XX=h EX=34 UP=1 LO=1 UP=1 LO=1 LE=1 XX=1 UP=1 LO=1 XX=2 LO=4 XX=1 UP=1",
   "XX=6 UP=1 XX=1 UP=3 XX=1 UP=1 XX=1 UP=2 LO=1 UP=h XX=1 UP=9 LO=z UP=1 LO=2 UP=3 LO=3 UP=1",
   "LO=1 UP=1 LO=1 UP=1 LO=1 UP=1 LO=1 UP=1 LO=1 UP=1 LO=1 UP=1 LO=1 UP=1 LO=1 UP=1 LO=1 UP=1",
   "LO=1 UP=1 LO=1 UP=1 LO=5 UP=1 LO=1 XX=1 UP=1 LO=1 UP=2 LO=2 UP=1f LO=1c UP=1 LO=1 UP=1 LO=1",
   "UP=1 LO=1 UP=1 LO=1 UP=1 LO=1 UP=1 LO=1 UP=1 LO=1 UP=1 LO=1 UP=1 LO=1 UP=1 LO=1 UP=1 LO=1",
   "UP=1 LO=1 UP=1 LO=1 UP=1 LO=1 UP=1 LO=1 UP=1 LO=1 UP=1 LO=1 XX=1 EX=7 UP=1 LO=1 UP=1 LO=1",
   "UP=1 LO=1 UP=1 LO=1 UP=1 LO=1 UP=1 LO=1 UP=1 LO=1 UP=1 LO=1 UP=1 LO=1 UP=1 LO=1 UP=1 LO=1",
   "UP=1 LO=1 UP=1 LO=1 UP=1 LO=1 UP=1 LO=1 UP=1 LO=1 UP=1 LO=1 UP=1 LO=1 UP=1 LO=1 UP=1 LO=1",
   "UP=1 LO=1 UP=1 LO=1 UP=1 LO=1 UP=1 LO=1 UP=1 LO=1 UP=1 LO=1 UP=1 LO=1 UP=2 LO=1 UP=1 LO=1",
   "UP=1 LO=1 UP=1 LO=1 UP=1 LO=1 UP=1 LO=1 UP=1 LO=2 UP=1 LO=1 UP=1 LO=1 UP=1 LO=1 UP=1 LO=1",
   "UP=1 LO=1 UP=1 LO=1 UP=1 LO=1 UP=1 LO=1 UP=1 LO=1 UP=1 LO=1 UP=1 LO=1 UP=1 LO=1 UP=1 LO=1",
   "UP=1 LO=1 UP=1 LO=1 UP=1 LO=1 UP=1 LO=1 UP=1 LO=1 UP=1 LO=1 UP=1 LO=1 UP=1 LO=1 UP=1 LO=1",
   "UP=1 LO=1 UP=1 LO=1 UP=1 LO=1 UP=1 LO=1 UP=1 LO=1 UP=1 LO=1 UP=1 LO=1 UP=1 LO=1 UP=1 LO=1",
   "UP=1 LO=1 UP=1 LO=1 UP=1 LO=1 UP=1 LO=1 UP=1 LO=1 UP=1 LO=1 UP=1 LO=1 UP=1 LO=1 UP=1 LO=1",
   "UP=1 LO=1 UP=1 LO=1 UP=1 LO=1 UP=1 LO=1 UP=1 LO=1 UP=1 LO=1 UP=1 LO=1 UP=1 LO=1 XX=1 UP=12",
   "XX=2 LE=1 XX=3 SC=1 XX=2 LO=15 ST=1 XX=7 EX=19 XX=1 EX=1 XX=1 EX=2 XX=1 EX=2 XX=1 EX=1 XX=8",
   "LE=r XX=4 LE=5 XX=c FO=6 XX=6 SC=2 XX=2 EX=b XX=1 FO=1 ST=3 LE=17 EX=l NU=a XX=1 NU=2 XX=1",
   "LE=2 EX=1 LE=2r ST=1 LE=1 EX=7 FO=1 XX=1 EX=6 LE=2 EX=2 XX=1 EX=4 LE=2 NU=a LE=3 XX=2 LE=1",
   "ST=3 XX=c FO=1 LE=1 EX=1 LE=u EX=r XX=2 LE=2h EX=b LE=1 XX=e NU=a LE=x EX=9 LE=2 XX=2 SC=1",
   "ST=1 LE=1 XX=2 EX=1 XX=2 LE=m EX=4 LE=1 EX=9 LE=1 EX=3 LE=1 EX=5 XX=9 ST=1 XX=1 ST=1 XX=3",
   "ST=2 XX=1 LE=p EX=3 XX=4 LE=b XX=5 LE=o XX=1 LE=7 FO=2 XX=5 EX=9 LE=16 EX=o FO=1 EX=x LE=1i",
   "EX=3 LE=1 EX=i LE=1 EX=7 LE=a EX=2 ST=2 NU=a XX=1 LE=g EX=3 XX=1 LE=8 XX=2 LE=2 XX=2 LE=m",
   "XX=1 LE=7 XX=1 LE=1 XX=3 LE=4 XX=2 EX=1 LE=1 EX=7 XX=2 EX=2 XX=2 EX=3 LE=1 XX=8 EX=1 XX=4",
   "LE=2 XX=1 LE=3 EX=2 XX=2 NU=a LE=2 XX=a LE=1 XX=1 EX=1 XX=2 EX=3 XX=1 LE=6 XX=4 LE=2 XX=2",
   "LE=m XX=1 LE=7 XX=1 LE=2 XX=1 LE=2 XX=1 LE=2 XX=2 EX=1 XX=1 EX=5 XX=4 EX=2 XX=2 EX=3 XX=3",
   "EX=1 XX=7 LE=4 XX=1 LE=1 XX=7 NU=a EX=2 LE=3 EX=1 XX=b EX=3 XX=1 LE=9 XX=1 LE=3 XX=1 LE=m",
   "XX=1 LE=7 XX=1 LE=2 XX=1 LE=5 XX=2 EX=1 LE=1 EX=8 XX=1 EX=3 XX=1 EX=3 XX=2 LE=1 XX=f LE=2",
   "EX=2 XX=2 NU=a XX=9 LE=1 EX=6 XX=1 EX=3 XX=1 LE=8 XX=2 LE=2 XX=2 LE=m XX=1 LE=7 XX=1 LE=2",
   "XX=1 LE=5 XX=2 EX=1 LE=1 EX=7 XX=2 EX=2 XX=2 EX=3 XX=7 EX=3 XX=4 LE=2 XX=1 LE=3 EX=2 XX=2",
   "NU=a XX=1 LE=1 XX=g EX=1 LE=1 XX=1 LE=6 XX=3 LE=3 XX=1 LE=4 XX=3 LE=2 XX=1 LE=1 XX=1 LE=2",
   "XX=3 LE=2 XX=3 LE=3 XX=3 LE=c XX=4 EX=5 XX=3 EX=3 XX=1 EX=4 XX=2 LE=1 XX=6 EX=1 XX=e NU=a",
   "XX=g EX=5 LE=8 XX=1 LE=3 XX=1 LE=n XX=1 LE=g XX=2 EX=1 LE=1 EX=7 XX=1 EX=3 XX=1 EX=4 XX=7",
   "EX=2 XX=1 LE=3 XX=1 LE=2 XX=2 LE=2 EX=2 XX=2 NU=a XX=g LE=1 EX=3 XX=1 LE=8 XX=1 LE=3 XX=1",
   "LE=n XX=1 LE=a XX=1 LE=5 XX=2 EX=1 LE=1 EX=7 XX=1 EX=3 XX=1 EX=4 XX=7 EX=2 XX=5 LE=3 XX=1",
   "LE=2 EX=2 XX=2 NU=a XX=1 LE=2 EX=1 XX=c EX=4 LE=9 XX=1 LE=3 XX=1 LE=15 EX=2 LE=1 EX=7 XX=1",
   "EX=3 XX=1 EX=4 LE=1 XX=5 LE=3 EX=1 XX=7 LE=3 EX=2 XX=2 NU=a XX=a LE=6 XX=1 EX=3 XX=1 LE=i",
   "XX=3 LE=o XX=1 LE=9 XX=1 LE=1 XX=2 LE=7 XX=3 EX=1 XX=4 EX=6 XX=1 EX=1 XX=1 EX=8 XX=6 NU=a",
   "XX=2 EX=2 XX=d LE=1c EX=1 LE=2 EX=7 XX=5 LE=7 EX=8 XX=1 NU=a XX=13 LE=2 XX=1 LE=1 XX=1 LE=5",
   "XX=1 LE=o XX=1 LE=1 XX=1 LE=a EX=1 LE=2 EX=9 LE=1 XX=2 LE=5 XX=1 LE=1 XX=1 EX=7 XX=1 NU=a",
   "XX=2 LE=4 XX=w LE=1 XX=n EX=2 XX=6 NU=a XX=b EX=1 XX=1 EX=1 XX=1 EX=1 CL=4 EX=2 LE=8 XX=1",
   "LE=10 XX=4 EX=k XX=1 EX=2 LE=5 EX=b XX=1 EX=10 XX=9 EX=1 XX=1l LE=17 EX=k LE=1 NU=a ST=2",
   "XX=4 LE=6 EX=4 LE=4 EX=3 LE=1 EX=3 LE=2 EX=7 LE=3 EX=4 LE=d EX=c LE=1 EX=1 NU=a EX=4 XX=2",
   "UP=12 XX=1 UP=1 XX=5 UP=1 XX=2 LE=17 XX=1 LO=1 LE=98 XX=1 LE=4 XX=2 LE=7 XX=1 LE=1 XX=1 LE=4",
   "XX=2 LE=15 XX=1 LE=4 XX=2 LE=x XX=1 LE=4 XX=2 LE=7 XX=1 LE=1 XX=1 LE=4 XX=2 LE=f XX=1 LE=1l",
   "XX=1 LE=4 XX=2 LE=1v XX=2 EX=3 XX=2 ST=1 XX=4 ST=2 XX=n LE=g XX=g UP=2e XX=2 LO=6 XX=3 LE=h8",
   "XX=1 ST=1 LE=h SP=1 LE=q CL=2 XX=3 LE=23 XX=3 LE=b XX=7 LE=i EX=4 XX=9 LE=j EX=3 ST=2 XX=9",
   "LE=i EX=2 XX=c LE=d XX=1 LE=3 XX=1 EX=2 XX=c LE=1g EX=w XX=3 LE=1 XX=4 LE=1 EX=1 XX=2 NU=a",
   "XX=o SC=1 ST=1 XX=4 SC=1 ST=1 XX=1 EX=3 FO=1 EX=1 NU=a XX=6 LE=2h XX=7 LE=5 EX=2 LE=y EX=1",
   "LE=1 XX=5 LE=1y XX=a LE=v XX=1 EX=c XX=4 EX=c XX=8 ST=2 NU=a LE=u XX=2 LE=5 XX=b LE=18 XX=4",
   "LE=q XX=6 NU=a XX=12 LE=n EX=5 XX=4 LE=1h EX=a XX=1 EX=t XX=2 EX=1 NU=a XX=6 NU=a XX=d LE=1",
   "ST=4 XX=4 EX=1a XX=2 EX=c XX=k EX=5 LE=1b EX=h LE=8 XX=3 NU=a ST=2 XX=2 ST=2 XX=b EX=9 XX=9",
   "ST=2 XX=1 EX=3 LE=u EX=d LE=2 NU=a LE=18 EX=e XX=c LE=10 EX=k XX=3 ST=2 XX=3 NU=a XX=3 LE=3",
   "NU=a LE=10 ST=2 LO=9 UP=1 LO=1 XX=5 LE=17 XX=2 LE=3 XX=g EX=3 XX=1 EX=l LE=4 EX=1 LE=6 EX=1",
   "LE=2 EX=3 LE=1 XX=5 LO=5c EX=1s UP=1 LO=1 UP=1 LO=1 UP=1 LO=1 UP=1 LO=1 UP=1 LO=1 UP=1 LO=1",
   "UP=1 LO=1 UP=1 LO=1 UP=1 LO=1 UP=1 LO=1 UP=1 LO=1 UP=1 LO=1 UP=1 LO=1 UP=1 LO=1 UP=1 LO=1",
   "UP=1 LO=1 UP=1 LO=1 UP=1 LO=1 UP=1 LO=1 UP=1 LO=1 UP=1 LO=1 UP=1 LO=1 UP=1 LO=1 UP=1 LO=1",
   "UP=1 LO=1 UP=1 LO=1 UP=1 LO=1 UP=1 LO=1 UP=1 LO=1 UP=1 LO=1 UP=1 LO=1 UP=1 LO=1 UP=1 LO=1",
   "UP=1 LO=1 UP=1 LO=1 UP=1 LO=1 UP=1 LO=1 UP=1 LO=1 UP=1 LO=1 UP=1 LO=1 UP=1 LO=1 UP=1 LO=1",
   "UP=1 LO=1 UP=1 LO=1 UP=1 LO=1 UP=1 LO=1 UP=1 LO=1 UP=1 LO=1 UP=1 LO=1 UP=1 LO=1 UP=1 LO=1",
   "UP=1 LO=1 UP=1 LO=1 UP=1 LO=1 UP=1 LO=1 UP=1 LO=1 UP=1 LO=1 UP=1 LO=1 UP=1 LO=1 UP=1 LO=1",
   "UP=1 LO=1 UP=1 LO=1 UP=1 LO=1 UP=1 LO=1 UP=1 LO=1 UP=1 LO=1 UP=1 LO=1 UP=1 LO=1 UP=1 LO=1",
   "UP=1 LO=1 UP=1 LO=1 UP=1 LO=1 UP=1 LO=1 UP=1 LO=1 UP=1 LO=9 UP=1 LO=1 UP=1 LO=1 UP=1 LO=1",
   "UP=1 LO=1 UP=1 LO=1 UP=1 LO=1 UP=1 LO=1 UP=1 LO=1 UP=1 LO=1 UP=1 LO=1 UP=1 LO=1 UP=1 LO=1",
   "UP=1 LO=1 UP=1 LO=1 UP=1 LO=1 UP=1 LO=1 UP=1 LO=1 UP=1 LO=1 UP=1 LO=1 UP=1 LO=1 UP=1 LO=1",
   "UP=1 LO=1 UP=1 LO=1 UP=1 LO=1 UP=1 LO=1 UP=1 LO=1 UP=1 LO=1 UP=1 LO=1 UP=1 LO=1 UP=1 LO=1",
   "UP=1 LO=1 UP=1 LO=1 UP=1 LO=1 UP=1 LO=1 UP=1 LO=1 UP=1 LO=1 UP=1 LO=1 UP=1 LO=1 UP=1 LO=1",
   "UP=1 LO=1 UP=1 LO=1 UP=1 LO=1 UP=1 LO=1 UP=1 LO=1 UP=1 LO=1 UP=1 LO=1 UP=1 LO=1 UP=1 LO=1",
   "UP=1 LO=9 UP=8 LO=6 XX=2 UP=6 XX=2 LO=8 UP=8 LO=8 UP=8 LO=6 XX=2 UP=6 XX=2 LO=8 XX=1 UP=1",
   "XX=1 UP=1 XX=1 UP=1 XX=1 UP=1 LO=8 UP=8 LO=e XX=2 LO=8 UP=8 LO=8 UP=8 LO=8 UP=8 LO=5 XX=1",
   "LO=2 UP=5 XX=1 LO=1 XX=3 LO=3 XX=1 LO=2 UP=5 XX=3 LO=4 XX=2 LO=2 UP=4 XX=4 LO=8 UP=5 XX=5",
   "LO=3 XX=1 LO=2 UP=5 XX=3 SP=b FO=1 EX=2 FO=2 XX=3 SC=2 XX=3 CL=8 XX=4 AT=1 XX=3 SE=2 FO=5",
   "SP=1 XX=9 CL=2 XX=1 ST=2 XX=7 CL=2 ST=3 XX=l SP=1 FO=5 XX=1 FO=a XX=1 LO=1 XX=b CL=2 LO=1",
   "XX=d CL=2 XX=1 LO=d XX=1f EX=x XX=h UP=1 XX=4 UP=1 XX=2 LO=1 UP=3 LO=2 UP=3 LO=1 XX=1 UP=1",
   "XX=3 UP=5 XX=6 UP=1 XX=1 UP=1 XX=1 UP=1 XX=1 UP=4 XX=1 LO=1 UP=4 LO=1 LE=4 LO=1 XX=2 LO=2",
   "UP=2 XX=5 UP=1 LO=4 XX=4 LO=1 XX=h UP=g LO=g LE=3 UP=1 LO=1 LE=4 XX=an CL=4 XX=t CL=2 XX=az",
   "UP=q LO=q XX=hd CL=6 XX=7 CL=e XX=27 CL=2 XX=v CL=a XX=b7 CL=m XX=1r CL=4 XX=w CL=2 XX=ea",
   "UP=1c LO=1c UP=1 LO=1 UP=3 LO=2 UP=1 LO=1 UP=1 LO=1 UP=1 LO=1 UP=4 LO=1 UP=1 LO=2 UP=1 LO=8",
   "UP=3 LO=1 UP=1 LO=1 UP=1 LO=1 UP=1 LO=1 UP=1 LO=1 UP=1 LO=1 UP=1 LO=1 UP=1 LO=1 UP=1 LO=1",
   "UP=1 LO=1 UP=1 LO=1 UP=1 LO=1 UP=1 LO=1 UP=1 LO=1 UP=1 LO=1 UP=1 LO=1 UP=1 LO=1 UP=1 LO=1",
   "UP=1 LO=1 UP=1 LO=1 UP=1 LO=1 UP=1 LO=1 UP=1 LO=1 UP=1 LO=1 UP=1 LO=1 UP=1 LO=1 UP=1 LO=1",
   "UP=1 LO=1 UP=1 LO=1 UP=1 LO=1 UP=1 LO=1 UP=1 LO=1 UP=1 LO=1 UP=1 LO=1 UP=1 LO=1 UP=1 LO=1",
   "UP=1 LO=1 UP=1 LO=1 UP=1 LO=1 UP=1 LO=1 UP=1 LO=1 UP=1 LO=1 UP=1 LO=1 UP=1 LO=1 UP=1 LO=1",
   "UP=1 LO=1 UP=1 LO=1 UP=1 LO=1 UP=1 LO=1 UP=1 LO=2 XX=6 UP=1 LO=1 UP=1 LO=1 EX=3 UP=1 LO=1",
   "XX=c LO=12 XX=1 LO=1 XX=5 LO=1 XX=2 LE=1k XX=7 LE=1 XX=f EX=1 LE=n XX=9 LE=7 XX=1 LE=7 XX=1",
   "LE=7 XX=1 LE=7 XX=1 LE=7 XX=1 LE=7 XX=1 LE=7 XX=1 LE=7 XX=1 EX=w CL=e XX=e CL=2 XX=2 CL=a",
   "XX=4 ST=1 LE=1 XX=c ST=1 XX=5 CL=1 XX=g ST=2 CL=8 XX=bn SP=1 SC=1 ST=1 XX=2 LE=3 CL=a XX=2",
   "CL=8 XX=1 CL=3 XX=1 LE=9 EX=6 XX=1 LE=5 XX=2 LE=5 XX=4 LE=2e XX=2 EX=2 XX=2 LE=3 XX=1 LE=2i",
   "XX=1 LE=4 XX=5 LE=17 XX=1 LE=2m XX=h LE=w XX=1c LE=g XX=e8 LE=534 XX=1s LE=h3h XX=1v LE=1a",
   "XX=1 ST=1 LE=7h XX=1 ST=2 LE=g NU=a LE=2 XX=k UP=1 LO=1 UP=1 LO=1 UP=1 LO=1 UP=1 LO=1 UP=1",
   "LO=1 UP=1 LO=1 UP=1 LO=1 UP=1 LO=1 UP=1 LO=1 UP=1 LO=1 UP=1 LO=1 UP=1 LO=1 UP=1 LO=1 UP=1",
   "LO=1 UP=1 LO=1 UP=1 LO=1 UP=1 LO=1 UP=1 LO=1 UP=1 LO=1 UP=1 LO=1 UP=1 LO=1 UP=1 LO=1 UP=1",
   "LO=1 LE=1 EX=4 XX=1 EX=a XX=1 LE=1 UP=1 LO=1 UP=1 LO=1 UP=1 LO=1 UP=1 LO=1 UP=1 LO=1 UP=1",
   "LO=1 UP=1 LO=1 UP=1 LO=1 UP=1 LO=1 UP=1 LO=1 UP=1 LO=1 UP=1 LO=1 UP=1 LO=1 UP=1 LO=3 EX=2",
   "LE=28 EX=2 XX=1 ST=1 XX=3 ST=1 XX=v LE=9 XX=2 UP=1 LO=1 UP=1 LO=1 UP=1 LO=1 UP=1 LO=1 UP=1",
   "LO=1 UP=1 LO=1 UP=1 LO=3 UP=1 LO=1 UP=1 LO=1 UP=1 LO=1 UP=1 LO=1 UP=1 LO=1 UP=1 LO=1 UP=1",
   "LO=1 UP=1 LO=1 UP=1 LO=1 UP=1 LO=1 UP=1 LO=1 UP=1 LO=1 UP=1 LO=1 UP=1 LO=1 UP=1 LO=1 UP=1",
   "LO=1 UP=1 LO=1 UP=1 LO=1 UP=1 LO=1 UP=1 LO=1 UP=1 LO=1 UP=1 LO=1 UP=1 LO=1 UP=1 LO=1 UP=1",
   "LO=1 UP=1 LO=1 UP=1 LO=1 UP=1 LO=1 UP=1 LO=1 UP=1 LO=1 UP=1 LO=a UP=1 LO=1 UP=1 LO=1 UP=2",
   "LO=1 UP=1 LO=1 UP=1 LO=1 UP=1 LO=1 UP=1 LO=1 LE=1 XX=2 UP=1 LO=1 UP=1 LO=1 LE=1 UP=1 LO=1",
   "UP=1 LO=3 UP=1 LO=1 UP=1 LO=1 UP=1 LO=1 UP=1 LO=1 UP=1 LO=1 UP=1 LO=1 UP=1 LO=1 UP=1 LO=1",
   "UP=1 LO=1 UP=1 LO=1 UP=5 LO=1 UP=5 LO=1 UP=1 LO=1 UP=1 LO=1 UP=1 LO=1 UP=1 LO=1 UP=1 LO=1",
   "UP=1 LO=1 UP=1 LO=1 UP=4 LO=1 UP=1 LO=1 UP=2 LO=1 UP=1 LO=1 UP=1 LO=1 UP=1 LO=1 UP=1 LO=1",
   "UP=1 LO=1 UP=1 LO=1 UP=1 LO=1 UP=1 XX=k LO=4 UP=1 LO=1 LE=1 LO=3 LE=7 EX=1 LE=3 EX=1 LE=4",
   "EX=1 LE=n EX=5 XX=4 EX=1 XX=j LE=1g XX=2 ST=2 XX=8 EX=2 LE=1e EX=i XX=8 ST=2 NU=a XX=6 EX=i",
   "LE=6 XX=3 LE=1 XX=1 LE=2 EX=1 NU=a LE=s EX=8 XX=1 ST=1 LE=n EX=d XX=c LE=t XX=3 EX=4 LE=1b",
   "EX=e XX=7 ST=2 XX=5 LE=1 NU=a XX=6 LE=5 EX=1 LE=a NU=a LE=5 XX=1 LE=15 EX=e XX=9 LE=3 EX=1",
   "LE=8 EX=2 XX=2 NU=a XX=3 ST=3 LE=n XX=3 LE=1 EX=3 LE=1e EX=1 LE=1 EX=3 LE=2 EX=2 LE=5 EX=2",
   "LE=1 EX=1 LE=1 XX=o LE=3 XX=2 LE=b EX=5 ST=2 LE=3 EX=2 XX=a LE=6 XX=2 LE=6 XX=2 LE=6 XX=9",
   "LE=7 XX=1 LE=7 XX=1 LO=17 XX=1 LO=e XX=6 LO=28 LE=z EX=8 ST=1 EX=2 XX=2 NU=a XX=6 LE=8mc",
   "XX=c LE=n XX=4 LE=1d XX=6is LE=a6 XX=2 LE=2y XX=12 LO=7 XX=c LO=5 XX=5 LE=1 EX=1 LE=a XX=1",
   "LE=d XX=1 LE=5 XX=1 LE=1 XX=1 LE=2 XX=1 LE=2 XX=1 LE=30 XX=x LE=a3 CL=2 XX=g LE=1s XX=2",
   "LE=1i XX=14 LE=c XX=4 EX=g SC=2 XX=1 SC=1 XX=3 CL=2 XX=7 EX=g XX=1 SC=2 XX=2 CL=g XX=2 CL=2",
   "XX=7 SC=2 AT=1 XX=2 SC=1 ST=2 SC=1 CL=6 XX=4 SC=1 XX=c LE=5 XX=1 LE=3r XX=2 FO=1 XX=1 ST=1",
   "XX=6 CL=2 XX=2 SC=2 AT=1 XX=1 NU=a SC=1 XX=4 ST=1 XX=1 UP=q CL=1 XX=1 CL=1 XX=3 LO=q CL=1",
   "XX=1 CL=1 XX=1 CL=2 ST=1 CL=2 SC=1 XX=1 LE=1k EX=2 LE=v XX=3 LE=6 XX=2 LE=6 XX=2 LE=6 XX=2",
   "LE=3 XX=s FO=3 XX=4 LE=c XX=1 LE=q XX=1 LE=j XX=1 LE=2 XX=1 LE=f XX=2 LE=e XX=y LE=3f XX=1x",
   "LE=1h XX=3s EX=1 XX=3m LE=t XX=3 LE=1d XX=f EX=1 XX=v LE=w XX=d LE=u XX=5 LE=12 EX=5 XX=5",
   "LE=u XX=2 LE=10 XX=4 LE=8 XX=1 LE=5 XX=16 UP=14 LO=14 LE=26 XX=2 NU=a XX=6 UP=10 XX=4 LO=10",
   "XX=4 LE=14 XX=8 LE=1g XX=c UP=b XX=1 UP=f XX=1 UP=7 XX=1 UP=2 XX=1 LO=b XX=1 LO=f XX=1 LO=7",
   "XX=1 LO=2 XX=3 LE=1g XX=c LE=8n XX=9 LE=m XX=a LE=8 XX=o LO=1 LE=2 LO=3 XX=1 LO=16 XX=1 LO=9",
   "XX=1x LE=6 XX=2 LE=1 XX=1 LE=18 XX=1 LE=2 XX=3 LE=1 XX=2 LE=n XX=a LE=n XX=9 LE=v XX=1t LE=j",
   "XX=1 LE=2 XX=a LE=m XX=a LE=q XX=6 LE=q XX=12 LE=1k XX=6 LE=2 XX=1s LE=1 EX=3 XX=1 EX=2 XX=5",
   "EX=4 LE=4 XX=1 LE=3 XX=1 LE=t XX=2 EX=3 XX=4 EX=1 XX=m ST=2 XX=8 LE=t XX=3 LE=t XX=z LE=8",
   "XX=1 LE=s EX=2 XX=p LE=1i XX=a LE=m XX=a LE=j XX=d LE=i XX=32 LE=21 XX=1j UP=1f XX=d LO=1f",
   "XX=d LE=10 EX=4 XX=8 NU=a XX=6 NU=a LE=6 UP=m XX=3 EX=5 XX=1 LE=1 LO=m XX=6y LE=16 XX=1 EX=2",
   "XX=3 LE=2 XX=g LE=6 XX=1e EX=6 LE=t XX=a LE=1 XX=8 LE=m EX=b XX=4 ST=5 XX=m LE=i EX=4 ST=4",
   "XX=12 LE=l XX=r LE=n XX=9 EX=3 LE=1h EX=f ST=2 XX=t NU=a EX=1 LE=2 EX=2 LE=1 XX=9 EX=4 LE=19",
   "EX=b XX=2 FO=1 ST=4 EX=1 XX=a FO=1 XX=2 LE=p XX=7 NU=a XX=6 EX=3 LE=10 EX=e XX=1 NU=a XX=1",
   "ST=3 LE=1 EX=2 LE=1 XX=8 LE=z EX=1 XX=2 LE=1 XX=9 EX=3 LE=1c EX=e LE=4 ST=2 XX=2 EX=4 ST=1",
   "EX=2 NU=a LE=1 XX=1 LE=1 XX=1 ST=2 XX=w LE=i XX=1 LE=p EX=c ST=2 XX=1 ST=2 XX=1 EX=1 LE=2",
   "EX=1 XX=1q LE=7 XX=1 LE=1 XX=1 LE=4 XX=1 LE=f XX=1 LE=a ST=1 XX=6 LE=1b EX=c XX=5 NU=a XX=6",
   "EX=4 XX=1 LE=8 XX=2 LE=2 XX=2 LE=m XX=1 LE=7 XX=1 LE=2 XX=1 LE=5 XX=1 EX=2 LE=1 EX=7 XX=2",
   "EX=2 XX=2 EX=3 XX=2 LE=1 XX=6 EX=1 XX=5 LE=5 EX=2 XX=2 EX=7 XX=3 EX=5 XX=b LE=a XX=1 LE=1",
   "XX=2 LE=1 XX=1 LE=12 XX=1 LE=1 EX=9 XX=1 EX=1 XX=2 EX=1 XX=1 EX=4 XX=1 EX=5 LE=1 EX=1 LE=1",
   "XX=d EX=2 XX=t LE=1h EX=i LE=4 ST=2 XX=3 NU=a XX=4 EX=1 LE=3 XX=u LE=1c EX=k LE=2 XX=1 LE=1",
   "XX=8 NU=a XX=4m LE=1b EX=7 XX=2 EX=9 XX=1 ST=2 XX=5 ST=f LE=4 EX=2 XX=y LE=1c EX=h ST=2 XX=1",
   "LE=1 XX=b NU=a XX=12 LE=17 EX=d LE=1 XX=7 NU=a XX=6 NU=k XX=s LE=r XX=2 EX=f XX=4 NU=a XX=2",
   "ST=3 XX=1 LE=7 XX=55 LE=18 EX=f XX=2t UP=w LO=w NU=a XX=l LE=8 XX=2 LE=1 XX=2 LE=8 XX=1 LE=2",
   "XX=1 LE=o EX=6 XX=1 EX=2 XX=2 EX=4 LE=1 EX=1 LE=1 EX=2 ST=1 XX=1 ST=1 XX=9 NU=a XX=1y LE=8",
   "XX=2 LE=13 EX=7 XX=2 EX=7 LE=1 XX=1 LE=1 EX=1 XX=r LE=1 EX=a LE=14 EX=7 LE=1 EX=4 XX=3 ST=2",
   "XX=3 EX=1 XX=8 LE=1 EX=b LE=1a EX=g XX=1 ST=2 LE=1 XX=i LE=21 XX=2v EX=8 XX=2g LE=x XX=f",
   "NU=a XX=6 LE=9 XX=1 LE=11 EX=8 XX=1 EX=8 LE=1 ST=2 XX=d NU=a XX=o LE=u XX=2 EX=m XX=1 EX=e",
   "XX=21 LE=7 XX=1 LE=2 XX=1 LE=12 EX=6 XX=3 EX=1 XX=1 EX=2 XX=1 EX=7 LE=1 EX=1 XX=8 NU=a XX=6",
   "LE=6 XX=1 LE=2 XX=1 LE=w EX=5 XX=1 EX=2 XX=1 EX=5 LE=1 XX=7 NU=a XX=6 LE=18 XX=4 NU=a XX=6u",
   "LE=j EX=4 ST=2 XX=7 EX=2 LE=1 EX=1 LE=d XX=1 LE=y EX=7 XX=3 EX=5 ST=2 XX=b NU=a EX=1 XX=2d",
   "LE=1 XX=27 LE=pm XX=2u LE=33 XX=h LE=5g XX=218 LE=2p XX=f LE=ts FO=g EX=1 LE=6 EX=f XX=a",
   "LE=32z XX=5 LE=g7 XX=5a1 LE=u EX=i NU=a XX=1c6 LE=ft XX=7 LE=v XX=1 NU=a XX=4 ST=2 LE=27",
   "XX=1 NU=a XX=6 LE=u XX=2 EX=5 ST=1 XX=a LE=1c EX=7 ST=2 XX=7 LE=4 ST=1 XX=b NU=a XX=9 LE=l",
   "XX=5 LE=j XX=c0 LE=19 XX=3 NU=a XX=5i UP=w LO=w XX=o ST=1 XX=7 UP=p XX=2 LO=p XX=18 LE=23",
   "XX=4 EX=1 LE=1 EX=1j XX=7 EX=4 LE=d XX=1s LE=2 XX=1 LE=1 EX=1 XX=b EX=2 LE=5 XX=9 LE=5p2",
   "XX=15 LE=w XX=2p LE=37 XX=6pp LE=4 XX=1 LE=7 XX=1 LE=2 XX=1 LE=83 XX=f LE=1 XX=t LE=3 XX=2",
   "LE=1 XX=e LE=4 XX=8 LE=b0 XX=1s4 LE=2z XX=5 LE=d XX=3 LE=9 XX=7 LE=a XX=3 EX=2 ST=1 FO=4",
   "XX=37w NU=a XX=ee EX=1a XX=2 EX=n XX=f2 EX=5 XX=3 EX=6 FO=8 EX=8 XX=2 EX=7 XX=u EX=4 XX=44",
   "EX=3 XX=cb UP=q LO=q UP=q LO=7 XX=1 LO=i UP=q LO=q UP=1 XX=1 UP=2 XX=2 UP=1 XX=2 UP=2 XX=2",
   "UP=4 XX=1 UP=8 LO=4 XX=1 LO=1 XX=1 LO=7 XX=1 LO=b UP=q LO=q UP=2 XX=1 UP=4 XX=2 UP=8 XX=1",
   "UP=7 XX=1 LO=q UP=2 XX=1 UP=4 XX=1 UP=5 XX=1 UP=1 XX=3 UP=7 XX=1 LO=q UP=q LO=q UP=q LO=q",
   "UP=q LO=q UP=q LO=q UP=q LO=q UP=q LO=s XX=2 UP=p XX=1 LO=p XX=1 LO=6 UP=p XX=1 LO=p XX=1",
   "LO=6 UP=p XX=1 LO=p XX=1 LO=6 UP=p XX=1 LO=p XX=1 LO=6 UP=p XX=1 LO=p XX=1 LO=6 UP=1 LO=1",
   "XX=2 NU=1e XX=e8 EX=1j XX=4 EX=1e XX=8 EX=1 XX=e EX=1 XX=3 ST=1 XX=i EX=5 XX=1 EX=f XX=uo",
   "LO=a LE=1 LO=k XX=6 LO=6 XX=5x EX=7 XX=1 EX=h XX=2 EX=7 XX=1 EX=2 XX=1 EX=5 XX=5 LO=1q XX=x",
   "EX=1 XX=34 LE=19 XX=3 EX=7 LE=7 XX=2 NU=a XX=4 LE=1 XX=8x LE=u EX=1 XX=h LE=18 EX=4 NU=a",
   "XX=d2 LE=s EX=4 NU=a XX=5y LE=u EX=2 LE=1 NU=a XX=5h LE=v XX=1 LE=3 EX=1 LE=2 EX=1 LE=7 EX=2",
   "LE=5 EX=1 XX=8 LE=2 XX=68 LE=7 XX=1 LE=4 XX=1 LE=2 XX=1 LE=f XX=1 LE=5h XX=b EX=7 XX=15 UP=y",
   "LO=y EX=7 LE=1 XX=4 NU=a XX=x2 LE=4 XX=1 LE=r XX=1 LE=2 XX=1 LE=1 XX=2 LE=1 XX=1 LE=a XX=1",
   "LE=4 XX=1 LE=1 XX=1 LE=1 XX=6 LE=1 XX=4 LE=1 XX=1 LE=1 XX=1 LE=1 XX=1 LE=3 XX=1 LE=2 XX=1",
   "LE=1 XX=2 LE=1 XX=1 LE=1 XX=1 LE=1 XX=1 LE=1 XX=1 LE=1 XX=1 LE=2 XX=1 LE=1 XX=2 LE=4 XX=1",
   "LE=7 XX=1 LE=4 XX=1 LE=4 XX=1 LE=1 XX=1 LE=a XX=1 LE=h XX=5 LE=3 XX=1 LE=5 XX=1 LE=h XX=hg",
   "UP=q XX=6 UP=q XX=6 UP=q XX=z0 CL=3 XX=12v NU=a XX=sm LE=wyo XX=w LE=3dq XX=2 LE=4ge XX=2",
   "LE=5rl XX=f LE=ha XX=1wi LE=f2 XX=15u LE=3t7 XX=5 LE=6ju XX=f5vr FO=1 XX=u EX=2o XX=3k EX=6o",
   "XX=47bk"]

end Descent.Unicode
